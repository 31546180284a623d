import RuleDelta.Proofs.Git.Change
import RuleDelta.Proofs.Git.LinkTarget
import RuleDelta.Proofs.Git.Query

/-!
# How the sides of changed files are read

Each changed file of a range is read on both sides, the old one at the parent of its oldest commit
and the new one at its newest commit. A link has the content of its target. A command that fails makes the whole
listing fail, unless it reads the target of a link.

* `PathRead` says what is read of a path at a revision, and `ReadFrom` what is read of a file;
* `Answered` says that all commands are answered that a listing needs;
* `ChangesRead` says what a listing returns, what it asks and when it fails, and `changesRead`
  proves it for every runner and every range.
-/

namespace RuleDelta

open Run Text

/-! ## Paths -/

/-- What is read of a path at a revision: the path with its target, and the content. -/
inductive PathRead (runner : GitRunner) (revision path : String) : SidePath → List UInt8 → Prop
  /-- A path that is no link has its own content. -/
  | file {listing content : GitOutput} (listed : runner (treeCommand revision path) = .ok listing)
      (printed : runner (blobCommand revision path) = .ok content)
      (plain : startsWith listing.stdout linkMode = false) :
      PathRead runner revision path (.ofFile path) content.raw
  /-- A link that leads outside has no target and no content. -/
  | outside {listing content : GitOutput}
      (listed : runner (treeCommand revision path) = .ok listing)
      (printed : runner (blobCommand revision path) = .ok content)
      (link : startsWith listing.stdout linkMode = true)
      (leads : Outside path.toList content.stdout) :
      PathRead runner revision path (.ofFile path) []
  /-- A link has the content of its target. -/
  | target {listing content found : GitOutput} {target : List Char}
      (listed : runner (treeCommand revision path) = .ok listing)
      (printed : runner (blobCommand revision path) = .ok content)
      (link : startsWith listing.stdout linkMode = true)
      (leads : linkTarget? path.toList content.stdout = some target)
      (read : runner (blobCommand revision (String.ofList target)) = .ok found) :
      PathRead runner revision path ⟨path, some (String.ofList target)⟩ found.raw
  /-- A link whose target cannot be read has no content. -/
  | dangling {listing content : GitOutput} {target : List Char} {e : Error}
      (listed : runner (treeCommand revision path) = .ok listing)
      (printed : runner (blobCommand revision path) = .ok content)
      (link : startsWith listing.stdout linkMode = true)
      (leads : linkTarget? path.toList content.stdout = some target)
      (unread : runner (blobCommand revision (String.ofList target)) = .error e) :
      PathRead runner revision path ⟨path, some (String.ofList target)⟩ []

/-- What is read of one side of a changed file, given its path there and that on the other side. -/
inductive SideRead (runner : GitRunner) (revision : String) :
    Option String → Option String → SidePath → List UInt8 → Prop
  | present {path : String} {other? : Option String} {side : SidePath} {body : List UInt8}
      (read : PathRead runner revision path side body) :
      SideRead runner revision (some path) other? side body
  /-- A side that does not exist has the path of the other one, and no content. -/
  | absent (other : String) : SideRead runner revision none (some other) (.ofFile other) []

/-- A changed file of a range is read from a file of its listing: the old side at the parent of the
oldest commit, and the new one at the newest. -/
structure ReadFrom (runner : GitRunner) (range : CommitRange) (file : ChangedFile)
    (change : FileChange) : Prop where
  before : SideRead runner (range.oldest ++ "^") file.before? file.after? change.before
    change.bodyBefore
  after : SideRead runner range.newest file.after? file.before? change.after change.bodyAfter
  commits : ∃ output, runner (touchingCommand range file) = .ok output ∧
    change.commits = output.lines.map String.ofList

section

variable {runner : GitRunner} {range : CommitRange} {t t' : Trace}

theorem answer_of_ends {args : List String} {r : Except Error GitOutput}
    (h : (git runner args).Ends t r t') : r = runner args :=
  ((does_git runner args).of_ends h).1

theorem pathRead_of_readPath {revision path : String} {side : SidePath} {body : List UInt8}
    (h : (readPath runner revision path).Ends t (.ok (side, body)) t') :
    PathRead runner revision path side body := by
  simp only [readPath, returns_bind] at h
  obtain ⟨listing, s₁, hlisting, content, s₂, hcontent, h⟩ := h
  have listed := (answer_of_ends hlisting).symm
  have printed := (answer_of_ends hcontent).symm
  split at h
  · rename_i hplain
    obtain ⟨⟨⟩, -⟩ := returns_pure.mp h
    exact .file listed printed (by simpa using hplain)
  rename_i hlink
  have link : startsWith listing.stdout linkMode = true := by simpa using hlink
  split at h
  · rename_i hnone
    simp only [returns_bind, returns_pure] at h
    obtain ⟨-, s, -, ⟨⟩, -⟩ := h
    exact .outside listed printed link (linkTarget?_eq_none_iff.mp hnone)
  · rename_i target htarget
    have leads : linkTarget? path.toList content.stdout = some target := htarget
    simp only [returns_tryCatch, returns_bind, returns_pure] at h
    rcases h with ⟨found, s, hfound, ⟨⟩, -⟩ | ⟨e, s, hrefused, -, s', -, ⟨⟩, -⟩
    · exact .target listed printed link leads (answer_of_ends hfound).symm
    · rcases ends_bind.mp hrefused with ⟨found, s₃, -, hreturned⟩ | ⟨e', hasked, -⟩
      · cases (ends_pure.mp hreturned).1
      · exact .dangling listed printed link leads (answer_of_ends hasked).symm

theorem sideRead_of_readSide {revision : String} {path? other? : Option String} {other : String}
    {side : SidePath} {body : List UInt8} (hother : path? = none → other? = some other)
    (h : (readSide runner revision path? other).Ends t (.ok (side, body)) t') :
    SideRead runner revision path? other? side body := by
  cases path? with
  | some path => exact .present (pathRead_of_readPath h)
  | none =>
    obtain ⟨⟨⟩, -⟩ := returns_pure.mp h
    rw [hother rfl]
    exact .absent other

/-- A path that is read keeps its name. -/
theorem PathRead.name {revision path : String} {side : SidePath} {body : List UInt8}
    (h : PathRead runner revision path side body) : side.name = path := by
  cases h <;> rfl

/-- A side has the name of its path, or that of the other side. -/
theorem SideRead.name {revision : String} {path? other? : Option String} {side : SidePath}
    {body : List UInt8} (h : SideRead runner revision path? other? side body) :
    path?.or other? = some side.name := by
  cases h with
  | present read => rw [read.name]; rfl
  | absent other => rfl

theorem readFrom_of_readChange {file : ChangedFile} {added : List Nat} {change : FileChange}
    (h : (readChange runner range file added).Ends t (.ok change) t') :
    ReadFrom runner range file change := by
  obtain ⟨-, s₁, s₂, hbefore, hafter, hcommits⟩ := returns_readChange h
  have before : SideRead runner (range.oldest ++ "^") file.before? file.after? change.before
      change.bodyBefore := by
    refine sideRead_of_readSide (fun hnone => ?_) hbefore
    cases file <;> first | rfl | cases hnone
  have after : SideRead runner range.newest file.after? file.before? change.after
      change.bodyAfter := by
    refine sideRead_of_readSide (fun hnone => ?_) hafter
    have hname := before.name
    cases file <;> first | exact hname | cases hnone
  refine ⟨before, after, ?_⟩
  simp only [touchingCommits, returns_bind, returns_pure] at hcommits
  obtain ⟨output, s, houtput, hlines, -⟩ := hcommits
  exact ⟨output, (answer_of_ends houtput).symm, hlines⟩

/-- The changed files are read one by one, in the order of their listing. -/
theorem forall₂_readFrom {table : List (String × List Nat)} {files : List ChangedFile}
    {found : List FileChange} (h : (readChanges runner range table files).Ends t (.ok found) t') :
    List.Forall₂ (ReadFrom runner range) files found := by
  induction files generalizing table t t' found with
  | nil =>
    obtain ⟨rfl, -⟩ := returns_pure.mp h
    exact .nil
  | cons file rest ih =>
    simp only [readChanges, returns_bind, returns_pure] at h
    obtain ⟨change, s, hchange, others, s', hothers, rfl, -⟩ := h
    exact .cons (readFrom_of_readChange hchange) (ih hothers)

/-- A listing that returns has read the files of its first command, unless there are none. -/
theorem returns_changes {found : List FileChange}
    (h : (changes runner range).Ends t (.ok found) t') :
    ∃ files, listedFiles runner range = .ok files ∧ (files = [] ∧ found = [] ∨
      ∃ diff s, runner (diffCommand range "-U0") = .ok diff ∧
        (readChanges runner range (Diff.addedByFile (Utf8.decodeLossy diff.raw)) files).Ends s
          (.ok found) t') := by
  simp only [changes, returns_bind, ends_liftExcept] at h
  obtain ⟨status, s₁, hstatus, files, s₂, ⟨hfiles, rfl⟩, h⟩ := h
  have hlisted : listedFiles runner range = .ok files := by
    unfold listedFiles
    rw [← answer_of_ends hstatus]
    exact hfiles.symm
  refine ⟨files, hlisted, ?_⟩
  split at h
  · rename_i hempty
    exact .inl ⟨List.isEmpty_iff.mp hempty, (returns_pure.mp h).1⟩
  · simp only [returns_bind] at h
    obtain ⟨diff, s₃, hdiff, h⟩ := h
    exact .inr ⟨diff, s₃, (answer_of_ends hdiff).symm, h⟩

theorem exists_forall₂_readFrom {found : List FileChange}
    (h : (changes runner range).Ends t (.ok found) t') :
    ∃ files, listedFiles runner range = .ok files ∧
      List.Forall₂ (ReadFrom runner range) files found := by
  obtain ⟨files, hlisted, ⟨rfl, rfl⟩ | ⟨diff, s, -, hread⟩⟩ := returns_changes h
  · exact ⟨[], hlisted, .nil⟩
  · exact ⟨files, hlisted, forall₂_readFrom hread⟩

end

/-! ## Answers -/

/-- A command of git succeeds. -/
def GitRunner.Answers (runner : GitRunner) (args : List String) : Prop :=
  ∃ output, runner args = .ok output

/-- A path can be listed and printed at a revision. -/
structure PathAnswered (runner : GitRunner) (revision path : String) : Prop where
  listed : runner.Answers (treeCommand revision path)
  printed : runner.Answers (blobCommand revision path)

/-- Both sides of a file can be read, as far as they exist, and its commits can be listed. The
targets of links do not count. -/
structure FileAnswered (runner : GitRunner) (range : CommitRange) (file : ChangedFile) : Prop where
  before : ∀ path, file.before? = some path → PathAnswered runner (range.oldest ++ "^") path
  after : ∀ path, file.after? = some path → PathAnswered runner range.newest path
  commits : runner.Answers (touchingCommand range file)

/-- The listing of a range can be read, and all else that its files need. -/
structure Answered (runner : GitRunner) (range : CommitRange) (files : List ChangedFile) :
    Prop where
  listed : listedFiles runner range = .ok files
  diff : files ≠ [] → runner.Answers (diffCommand range "-U0")
  files : ∀ file ∈ files, FileAnswered runner range file

section

variable {runner : GitRunner} {range : CommitRange} {qs : List Query}

theorem errorOf?_eq_none_iff {α : Type} {r : Except Error α} :
    errorOf? r = none ↔ ∃ a, r = .ok a := by
  cases r <;> simp [errorOf?]

/-- No query is refused of those that are asked. -/
def Unrefused (runner : GitRunner) (qs : List Query) : Prop :=
  firstRefusal? runner qs = none

theorem unrefused_append {ps : List Query} :
    Unrefused runner (ps ++ qs) ↔ Unrefused runner ps ∧ Unrefused runner qs := by
  rw [Unrefused, firstRefusal?_append, Option.or_eq_none_iff]
  rfl

theorem unrefused_needed {args : List String} :
    Unrefused runner [.needed args] ↔ runner.Answers args := by
  rw [Unrefused, firstRefusal?_singleton]
  exact errorOf?_eq_none_iff

theorem unrefused_optional {α : Type} (x? : Option α) (command : α → List String) :
    Unrefused runner (x?.map fun x => Query.optional (command x)).toList := by
  cases x? <;> rfl

theorem unrefused_flatMap {α : Type} {f : α → List Query} {xs : List α} :
    Unrefused runner (xs.flatMap f) ↔ ∀ x ∈ xs, Unrefused runner (f x) := by
  induction xs with
  | nil => simp [Unrefused, firstRefusal?]
  | cons x xs ih => rw [List.flatMap_cons, unrefused_append, ih, List.forall_mem_cons]

/-- All commands are asked when none is refused. -/
theorem asked_of_unrefused (h : Unrefused runner qs) : asked runner qs = qs.map Query.args := by
  induction qs with
  | nil => rfl
  | cons q qs ih =>
    unfold Unrefused firstRefusal? at h
    unfold asked
    cases hrefusal : q.refusal? (runner q.args) with
    | some e => simp [hrefusal] at h
    | none =>
      simp only [hrefusal] at h
      rw [ih h, List.map_cons]

theorem unrefused_pathQueries {revision path : String} :
    Unrefused runner (pathQueries runner revision path) ↔ PathAnswered runner revision path := by
  rw [pathQueries, unrefused_append, unrefused_append, unrefused_needed, unrefused_needed,
    and_iff_left (unrefused_optional _ _)]
  exact ⟨fun h => ⟨h.1, h.2⟩, fun h => ⟨h.listed, h.printed⟩⟩

theorem unrefused_sideQueries {revision : String} {path? : Option String} :
    Unrefused runner (sideQueries runner revision path?) ↔
      ∀ path, path? = some path → PathAnswered runner revision path := by
  cases path? with
  | none => exact iff_of_true rfl nofun
  | some path => simp [sideQueries, unrefused_pathQueries]

theorem unrefused_fileQueries {file : ChangedFile} :
    Unrefused runner (fileQueries runner range file) ↔ FileAnswered runner range file := by
  rw [fileQueries, unrefused_append, unrefused_append, unrefused_needed, unrefused_sideQueries,
    unrefused_sideQueries]
  exact ⟨fun h => ⟨h.1, h.2.1, h.2.2⟩, fun h => ⟨h.before, h.after, h.commits⟩⟩

/-- The listing of a range is the first of its queries. -/
theorem unrefused_listing {read : GitOutput → Except Error (List ChangedFile)}
    {args : List String} :
    Unrefused runner [.readable args read] ↔ ∃ files, (runner args).bind read = .ok files := by
  rw [Unrefused, firstRefusal?_singleton]
  exact errorOf?_eq_none_iff

/-- **No query is refused when all is answered that the files need**, and only then. -/
theorem unrefused_changeQueries :
    Unrefused runner (changeQueries runner range) ↔ ∃ files, Answered runner range files := by
  rw [changeQueries, unrefused_append, unrefused_listing]
  constructor
  · rintro ⟨⟨files, hlisted⟩, hrest⟩
    have hlisted : listedFiles runner range = .ok files := hlisted
    rw [hlisted] at hrest
    cases files with
    | nil => exact ⟨[], hlisted, by simp, by simp⟩
    | cons file files =>
      simp only [unrefused_append, unrefused_needed, unrefused_flatMap,
        unrefused_fileQueries] at hrest
      exact ⟨file :: files, hlisted, fun _ => hrest.1, hrest.2⟩
  · rintro ⟨files, hlisted, hdiff, hfiles⟩
    refine ⟨⟨files, hlisted⟩, ?_⟩
    rw [hlisted]
    cases files with
    | nil => rfl
    | cons file files =>
      simp only [unrefused_append, unrefused_needed, unrefused_flatMap, unrefused_fileQueries]
      exact ⟨hdiff nofun, hfiles⟩

end

/-! ## Commands -/

/-- The commands that read a side of a file: the path is listed and printed, and behind a link the
target is printed. A side that does not exist is not read. -/
def sideCalls (runner : GitRunner) (revision : String) : Option String → List (List String)
  | some path => treeCommand revision path :: blobCommand revision path ::
      ((linkAt? runner revision path).map (blobCommand revision)).toList
  | none => []

/-- The commands that read a file: the old side at the parent of the oldest commit, the new one at
the newest commit, and the commits. -/
def fileCalls (runner : GitRunner) (range : CommitRange) (file : ChangedFile) :
    List (List String) :=
  sideCalls runner (range.oldest ++ "^") file.before? ++
    (sideCalls runner range.newest file.after? ++ [touchingCommand range file])

/-- The commands that list the changed files of a range, given the files of the listing. Nothing is
asked behind an empty listing. -/
def changeCalls (runner : GitRunner) (range : CommitRange) (files : List ChangedFile) :
    List (List String) :=
  diffCommand range "--name-status" ::
    if files.isEmpty then []
    else diffCommand range "-U0" :: files.flatMap (fileCalls runner range)

section

variable {runner : GitRunner} {range : CommitRange}

theorem map_args_sideQueries (revision : String) (path? : Option String) :
    (sideQueries runner revision path?).map Query.args = sideCalls runner revision path? := by
  cases path? with
  | none => rfl
  | some path =>
    simp only [sideQueries, pathQueries, sideCalls]
    cases linkAt? runner revision path <;> rfl

theorem map_args_fileQueries (file : ChangedFile) :
    (fileQueries runner range file).map Query.args = fileCalls runner range file := by
  rw [fileQueries, List.map_append, List.map_append, map_args_sideQueries, map_args_sideQueries]
  rfl

theorem map_args_changeQueries {files : List ChangedFile}
    (h : listedFiles runner range = .ok files) :
    (changeQueries runner range).map Query.args = changeCalls runner range files := by
  unfold changeQueries changeCalls
  rw [h]
  cases files with
  | nil => rfl
  | cons file files =>
    simp only [List.map_append, List.map_flatMap, map_args_fileQueries]
    rfl

end

/-! ## Listings -/

/-- What a listing of changed files returns, what it asks, and when it fails. -/
structure ChangesRead (runner : GitRunner) (range : CommitRange) : Prop where
  /-- There is a changed file for each file of the first command, in the same order and with both
  sides read each at its own revision. -/
  returned : ∀ t found t', (changes runner range).Ends t (.ok found) t' → ∃ files,
    Answered runner range files ∧ List.Forall₂ (ReadFrom runner range) files found ∧
      t'.calls = t.calls ++ changeCalls runner range files
  /-- It returns when all is answered that the files need. -/
  returns : ∀ files, Answered runner range files → ∃ found,
    (changes runner range).Does (.ok found) (changeCalls runner range files) []
  /-- It fails as a whole when anything is not. -/
  fails : (∀ files, ¬Answered runner range files) → ∃ e,
    (changes runner range).Does (.error e) (asked runner (changeQueries runner range)) []

/-- A listing returns when all is answered that its files need, and asks all of its commands. -/
theorem exists_does_changes {runner : GitRunner} {range : CommitRange} {files : List ChangedFile}
    (h : Answered runner range files) : ∃ found,
      (changes runner range).Does (.ok found) (changeCalls runner range files) [] := by
  have hunrefused := unrefused_changeQueries.mpr ⟨files, h⟩
  rw [← map_args_changeQueries h.listed, ← asked_of_unrefused hunrefused]
  rcases (@follows_changes runner range).gives_or_refused with ⟨found, hgives⟩ | ⟨e, he⟩
  · exact ⟨found, follows_changes.does_ok hgives⟩
  · rw [Unrefused, he] at hunrefused
    cases hunrefused

/-- A listing fails when something is not answered that its files need. -/
theorem exists_does_changes_error {runner : GitRunner} {range : CommitRange}
    (h : ∀ files, ¬Answered runner range files) : ∃ e,
      (changes runner range).Does (.error e) (asked runner (changeQueries runner range)) [] := by
  have hrefused : ¬Unrefused runner (changeQueries runner range) := by
    rw [unrefused_changeQueries]
    rintro ⟨files, hfiles⟩
    exact h files hfiles
  obtain ⟨e, he⟩ := Option.ne_none_iff_exists'.mp hrefused
  exact ⟨e, follows_changes.does_error he⟩

/-- **Both sides of each changed file are read, each at its own revision**, and a listing fails
exactly when something cannot be read that is not the target of a link. -/
theorem changesRead (runner : GitRunner) (range : CommitRange) : ChangesRead runner range where
  returned t found t' h := by
    by_cases hanswered : ∃ files, Answered runner range files
    · obtain ⟨files, hfiles⟩ := hanswered
      obtain ⟨_, hdoes⟩ := exists_does_changes hfiles
      obtain ⟨listed, hlisted, hread⟩ := exists_forall₂_readFrom h
      obtain rfl := Except.ok.inj (hfiles.listed.symm.trans hlisted)
      exact ⟨files, hfiles, hread, (hdoes.of_ends h).2.1⟩
    · obtain ⟨e, hdoes⟩ := exists_does_changes_error (not_exists.mp hanswered)
      cases (hdoes.of_ends h).1
  returns _ := exists_does_changes
  fails := exists_does_changes_error

/-- The range of one commit. -/
def oneCommit : CommitRange := ⟨"c", "c", ["c"]⟩

/-- One commit adds a link, whose target cannot be read, and changes a file. -/
def danglingRunner : GitRunner
  | [_, _, _, "--name-status", _, _, _, _] => .ok ⟨"A\ta/l\nM\tr".toList, [], []⟩
  | ["ls-tree", _, _, "a/l"] => .ok ⟨linkMode, [], []⟩
  | [_, _, "c:a/l"] => .ok ⟨"../b".toList, [], []⟩
  | [_, _, "c:b"] => .error (.git "no such file")
  | [_, _, "c^:r"] => .ok ⟨[], [], [1]⟩
  | [_, _, "c:r"] => .ok ⟨[], [], [2]⟩
  | _ => .ok ⟨[], [], []⟩

/-- The link has a target but no content, and the file has another content at the parent of the
commit. -/
def danglingChanges : List FileChange :=
  [⟨.ofFile "a/l", ⟨"a/l", some "b"⟩, [], [], [], []⟩,
    ⟨.ofFile "r", .ofFile "r", [1], [2], [], []⟩]

/-- That listing returns all the same, and no side is read at another revision than its own. -/
theorem changesRead_danglingRunner : ∃ files t,
    (changes danglingRunner oneCommit).Ends .start (.ok danglingChanges) t ∧
    files = [.added "a/l", .modified "r"] ∧ Answered danglingRunner oneCommit files ∧
    List.Forall₂ (ReadFrom danglingRunner oneCommit) files danglingChanges ∧
    t.calls = [
      ["-c", "core.quotepath=off", "diff", "--name-status", "-M", "--no-color", "c^", "c"],
      ["-c", "core.quotepath=off", "diff", "-U0", "-M", "--no-color", "c^", "c"],
      ["ls-tree", "c", "--", "a/l"], ["cat-file", "blob", "c:a/l"], ["cat-file", "blob", "c:b"],
      ["log", "--format=%H", "c^..c", "--", "a/l"],
      ["ls-tree", "c^", "--", "r"], ["cat-file", "blob", "c^:r"],
      ["ls-tree", "c", "--", "r"], ["cat-file", "blob", "c:r"],
      ["log", "--format=%H", "c^..c", "--", "r"]] := by
  have hends : (changes danglingRunner oneCommit).Ends .start (.ok danglingChanges) _ :=
    ends_of_toOption (by decide +kernel)
  obtain ⟨files, hanswered, hread, -⟩ :=
    (changesRead danglingRunner oneCommit).returned _ _ _ hends
  have hlisted : listedFiles danglingRunner oneCommit = .ok [.added "a/l", .modified "r"] := by
    cbv
  have hfiles := Except.ok.inj (hanswered.listed.symm.trans hlisted)
  exact ⟨files, _, hends, hfiles, hanswered, hread, by decide +kernel⟩

end RuleDelta

import Mathlib.Data.List.Forall2
import RuleDelta.Proofs.Diff.StatusRow
import RuleDelta.Proofs.Git.Reading

/-!
# Listings of two runners

Two runners may answer the commands that read a file alike, or only fail alike on those that have to
succeed. Where they do one or the other for every file of a listing, both list the range or both
fail with one error, and the files that they answer alike have the same changes.

* `SameAnswers` and `FailsAlike` are the two cases;
* `firstRefusal?_changeQueries_congr` compares how two listings fail, and `sameReadings_of_changes`
  what they return.
-/

namespace RuleDelta

open Run Text

/-! ## Answers of two runners -/

/-- A runner answers all commands that read a file as the first one does. -/
def SameAnswers (runner runner' : GitRunner) (range : CommitRange) (file : ChangedFile) : Prop :=
  ∀ args ∈ fileCalls runner range file, runner' args = runner args

/-- A path can be listed and printed by both runners, or both fail with one error. -/
structure PathFailsAlike (runner runner' : GitRunner) (revision path : String) : Prop where
  listed : errorOf? (runner' (treeCommand revision path)) =
    errorOf? (runner (treeCommand revision path))
  printed : errorOf? (runner' (blobCommand revision path)) =
    errorOf? (runner (blobCommand revision path))

/-- Where a side of a file cannot be read, it cannot be read by either runner. What is read may
differ, and so may the targets of links. -/
structure FailsAlike (runner runner' : GitRunner) (range : CommitRange) (file : ChangedFile) :
    Prop where
  before : ∀ path, file.before? = some path →
    PathFailsAlike runner runner' (range.oldest ++ "^") path
  after : ∀ path, file.after? = some path → PathFailsAlike runner runner' range.newest path

section

variable {runner runner' : GitRunner} {range : CommitRange}

theorem SameAnswers.failsAlike {file : ChangedFile} (h : SameAnswers runner runner' range file) :
    FailsAlike runner runner' range file where
  before path hpath := by
    have hsame : ∀ args ∈ sideCalls runner (range.oldest ++ "^") (some path),
        runner' args = runner args :=
      fun args hargs => h args (List.mem_append_left _ (hpath ▸ hargs))
    exact ⟨by rw [hsame _ (by simp [sideCalls])], by rw [hsame _ (by simp [sideCalls])]⟩
  after path hpath := by
    have hsame : ∀ args ∈ sideCalls runner range.newest (some path), runner' args = runner args :=
      fun args hargs => h args (List.mem_append_right _ (List.mem_append_left _ (hpath ▸ hargs)))
    exact ⟨by rw [hsame _ (by simp [sideCalls])], by rw [hsame _ (by simp [sideCalls])]⟩

/-! ## How two listings fail -/

/-- Queries about one thing after the other fail alike if they do so for each of them. -/
theorem firstRefusal?_flatMap_congr {α : Type} {f g : α → List Query} {xs : List α}
    (h : ∀ x ∈ xs, firstRefusal? runner' (g x) = firstRefusal? runner (f x)) :
    firstRefusal? runner' (xs.flatMap g) = firstRefusal? runner (xs.flatMap f) := by
  induction xs with
  | nil => rfl
  | cons x xs ih =>
    obtain ⟨hx, hxs⟩ := List.forall_mem_cons.mp h
    rw [List.flatMap_cons, List.flatMap_cons, firstRefusal?_append, firstRefusal?_append, hx,
      ih hxs]

/-- The target of a link does not count where a path is read. -/
theorem firstRefusal?_pathQueries (revision path : String) :
    firstRefusal? runner (pathQueries runner revision path) =
      (errorOf? (runner (treeCommand revision path))).or
        (errorOf? (runner (blobCommand revision path))) := by
  have htarget : firstRefusal? runner ((linkAt? runner revision path).map fun target =>
      Query.optional (blobCommand revision target)).toList = none := unrefused_optional _ _
  rw [pathQueries, firstRefusal?_append, firstRefusal?_append, firstRefusal?_singleton,
    firstRefusal?_singleton, htarget, Option.or_none]
  rfl

theorem firstRefusal?_sideQueries_congr {revision : String} {path? : Option String}
    (h : ∀ path, path? = some path → PathFailsAlike runner runner' revision path) :
    firstRefusal? runner' (sideQueries runner' revision path?) =
      firstRefusal? runner (sideQueries runner revision path?) := by
  cases path? with
  | none => rfl
  | some path =>
    obtain ⟨hlisted, hprinted⟩ := h path rfl
    simp only [sideQueries, firstRefusal?_pathQueries, hlisted, hprinted]

theorem firstRefusal?_fileQueries_congr {file : ChangedFile}
    (h : FailsAlike runner runner' range file)
    (hcommits : runner' (touchingCommand range file) = runner (touchingCommand range file)) :
    firstRefusal? runner' (fileQueries runner' range file) =
      firstRefusal? runner (fileQueries runner range file) := by
  simp only [fileQueries, firstRefusal?_append, firstRefusal?_singleton, Query.needed, hcommits,
    firstRefusal?_sideQueries_congr h.before, firstRefusal?_sideQueries_congr h.after]

/-- The listings of two runners agree, and so do their diffs and the commits of each file. The
commands that read a side of a file fail alike. -/
structure ListsAlike (runner runner' : GitRunner) (range : CommitRange) : Prop where
  listing : runner' (diffCommand range "--name-status") =
    runner (diffCommand range "--name-status")
  diff : runner' (diffCommand range "-U0") = runner (diffCommand range "-U0")
  commits : ∀ file, runner' (touchingCommand range file) = runner (touchingCommand range file)
  sides : ∀ files, listedFiles runner range = .ok files →
    ∀ file ∈ files, FailsAlike runner runner' range file

theorem ListsAlike.listedFiles_eq (h : ListsAlike runner runner' range) :
    listedFiles runner' range = listedFiles runner range := by
  rw [listedFiles, listedFiles, h.listing]

/-- **Two listings fail alike.** -/
theorem firstRefusal?_changeQueries_congr (h : ListsAlike runner runner' range) :
    firstRefusal? runner' (changeQueries runner' range) =
      firstRefusal? runner (changeQueries runner range) := by
  unfold changeQueries
  rw [h.listedFiles_eq, firstRefusal?_append, firstRefusal?_append, firstRefusal?_singleton,
    firstRefusal?_singleton, Query.readable, h.listing]
  congr 1
  split
  · rename_i file files hfiles
    rw [firstRefusal?_append, firstRefusal?_append, firstRefusal?_singleton,
      firstRefusal?_singleton, Query.needed, h.diff]
    congr 1
    exact firstRefusal?_flatMap_congr fun file hfile =>
      firstRefusal?_fileQueries_congr (h.sides _ hfiles file hfile) (h.commits file)
  · rfl

/-! ## What two listings return -/

/-- What is read of a path, given how it is listed and printed. -/
def readingOf (runner : GitRunner) (revision path : String) (listing content : GitOutput) :
    SidePath × List UInt8 :=
  if startsWith listing.stdout linkMode then
    match linkTarget? path.toList content.stdout with
    | none => (.ofFile path, [])
    | some target => (⟨path, some (String.ofList target)⟩,
        ((runner (blobCommand revision (String.ofList target))).toOption.map GitOutput.raw).getD [])
  else (.ofFile path, content.raw)

theorem PathRead.exists_readingOf {revision path : String} {side : SidePath} {body : List UInt8}
    (h : PathRead runner revision path side body) : ∃ listing content,
      runner (treeCommand revision path) = .ok listing ∧
      runner (blobCommand revision path) = .ok content ∧
      (side, body) = readingOf runner revision path listing content := by
  cases h with
  | file listed printed plain => exact ⟨_, _, listed, printed, by simp [readingOf, plain]⟩
  | outside listed printed link leads =>
    exact ⟨_, _, listed, printed, by simp [readingOf, link, linkTarget?_eq_none_iff.mpr leads]⟩
  | target listed printed link leads read =>
    exact ⟨_, _, listed, printed, by simp [readingOf, link, leads, read, Except.toOption]⟩
  | dangling listed printed link leads unread =>
    exact ⟨_, _, listed, printed, by simp [readingOf, link, leads, unread, Except.toOption]⟩

/-- Runners that answer alike read the same of a path. -/
theorem PathRead.congr {revision path : String} {side side' : SidePath} {body body' : List UInt8}
    (h : PathRead runner revision path side body)
    (h' : PathRead runner' revision path side' body')
    (hsame : ∀ args ∈ sideCalls runner revision (some path), runner' args = runner args) :
    (side', body') = (side, body) := by
  obtain ⟨listing, content, hlisted, hprinted, hread⟩ := h.exists_readingOf
  obtain ⟨listing', content', hlisted', hprinted', hread'⟩ := h'.exists_readingOf
  rw [hsame _ (by simp [sideCalls]), hlisted] at hlisted'
  rw [hsame _ (by simp [sideCalls]), hprinted] at hprinted'
  obtain rfl := Except.ok.inj hlisted'
  obtain rfl := Except.ok.inj hprinted'
  rw [hread, hread', readingOf, readingOf]
  split
  · rename_i hlink
    split
    · rfl
    · rename_i target htarget
      have hat : linkAt? runner revision path = some (String.ofList target) := by
        rw [linkAt?, hlisted, hprinted]
        simp [hlink, htarget]
      rw [hsame _ (by simp [sideCalls, hat])]
  · rfl

theorem SideRead.congr {revision : String} {path? other? : Option String}
    {side side' : SidePath} {body body' : List UInt8}
    (h : SideRead runner revision path? other? side body)
    (h' : SideRead runner' revision path? other? side' body')
    (hsame : ∀ args ∈ sideCalls runner revision path?, runner' args = runner args) :
    (side', body') = (side, body) := by
  cases h with
  | present read =>
    cases h' with
    | present read' => exact read.congr read' hsame
  | absent other =>
    cases h' with
    | absent => rfl

/-- What two runners read of one file. -/
structure SameReading (runner runner' : GitRunner) (range : CommitRange) (file : ChangedFile)
    (change change' : FileChange) : Prop where
  name : change.after.name = file.last
  name' : change'.after.name = file.last
  commits : change'.commits = change.commits
  /-- The changes are the same if the runners answer alike. -/
  same : SameAnswers runner runner' range file → change' = change

theorem sameReading_of_readFrom {file : ChangedFile} {change change' : FileChange}
    (h : ReadFrom runner range file change) (h' : ReadFrom runner' range file change')
    (hlines : change'.modifiedLines = change.modifiedLines)
    (hcommits : runner' (touchingCommand range file) = runner (touchingCommand range file)) :
    SameReading runner runner' range file change change' := by
  have hsameCommits : change'.commits = change.commits := by
    obtain ⟨output, houtput, hread⟩ := h.commits
    obtain ⟨output', houtput', hread'⟩ := h'.commits
    rw [hcommits, houtput] at houtput'
    obtain rfl := Except.ok.inj houtput'
    rw [hread, hread']
  refine ⟨?_, ?_, hsameCommits, fun hsame => ?_⟩
  · exact Option.some.inj (h.after.name.symm.trans file.last_eq)
  · exact Option.some.inj (h'.after.name.symm.trans file.last_eq)
  have hbefore := h.before.congr h'.before fun args hargs =>
    hsame args (List.mem_append_left _ hargs)
  have hafter := h.after.congr h'.after fun args hargs =>
    hsame args (List.mem_append_right _ (List.mem_append_left _ hargs))
  obtain ⟨before, after, bodyBefore, bodyAfter, lines, commits⟩ := change
  obtain ⟨before', after', bodyBefore', bodyAfter', lines', commits'⟩ := change'
  obtain ⟨rfl, rfl⟩ := Prod.mk.inj hbefore
  obtain ⟨rfl, rfl⟩ := Prod.mk.inj hafter
  obtain rfl := hlines
  obtain rfl := hsameCommits
  rfl

/-- Two runs over the files of one listing take the same lines for each of them. -/
theorem sameReadings_of_readChanges {table : Diff.LineTable} {files : List ChangedFile}
    {found found' : List FileChange} {t t' s s' : Trace}
    (hcommits : ∀ file, runner' (touchingCommand range file) = runner (touchingCommand range file))
    (h : (readChanges runner range table files).Ends t (.ok found) t')
    (h' : (readChanges runner' range table files).Ends s (.ok found') s') :
    List.Forall₂ (fun change change' => ∃ file ∈ files,
      SameReading runner runner' range file change change') found found' := by
  induction files generalizing table t t' s s' found found' with
  | nil =>
    obtain ⟨rfl, -⟩ := returns_pure.mp h
    obtain ⟨rfl, -⟩ := returns_pure.mp h'
    exact .nil
  | cons file rest ih =>
    simp only [readChanges, returns_bind, returns_pure] at h h'
    obtain ⟨change, t₁, hchange, others, t₂, hothers, rfl, -⟩ := h
    obtain ⟨change', s₁, hchange', others', s₂, hothers', rfl, -⟩ := h'
    have hlines : change'.modifiedLines = change.modifiedLines :=
      (returns_readChange hchange').1.trans (returns_readChange hchange).1.symm
    refine .cons ⟨file, List.mem_cons_self, ?_⟩ ?_
    · exact sameReading_of_readFrom (readFrom_of_readChange hchange)
        (readFrom_of_readChange hchange') hlines (hcommits file)
    · refine (ih hothers hothers').imp ?_
      rintro other other' ⟨file', hfile', hsame⟩
      exact ⟨file', List.mem_cons_of_mem _ hfile', hsame⟩

/-- A listing returns if one that fails alike does. -/
theorem exists_gives_changes (hlists : ListsAlike runner runner' range)
    {found : List FileChange} (h : (changes runner range).Gives found) :
    ∃ found', (changes runner' range).Gives found' := by
  have hunrefused : firstRefusal? runner (changeQueries runner range) = none := by
    obtain ⟨r, hdoes, hrefusal⟩ := @follows_changes runner range
    obtain ⟨calls, events, hreturns⟩ := h
    obtain ⟨rfl, -, -⟩ := hdoes.unique hreturns
    exact hrefusal.symm
  rcases (@follows_changes runner' range).gives_or_refused with hgives | ⟨e, he⟩
  · exact hgives
  · rw [firstRefusal?_changeQueries_congr hlists, hunrefused] at he
    cases he

/-- **Two listings have the same files**, and those that are answered alike have the same
changes. -/
theorem sameReadings_of_changes {found found' : List FileChange}
    (hlists : ListsAlike runner runner' range) (h : (changes runner range).Gives found)
    (h' : (changes runner' range).Gives found') :
    ∃ files, listedFiles runner range = .ok files ∧
      List.Forall₂ (fun change change' => ∃ file ∈ files,
        SameReading runner runner' range file change change') found found' := by
  obtain ⟨calls, events, hdoes⟩ := h
  obtain ⟨calls', events', hdoes'⟩ := h'
  obtain ⟨t, hends, -⟩ := hdoes .start
  obtain ⟨t', hends', -⟩ := hdoes' .start
  obtain ⟨files, hlisted, hread⟩ := returns_changes hends
  obtain ⟨files', hlisted', hread'⟩ := returns_changes hends'
  rw [hlists.listedFiles_eq, hlisted] at hlisted'
  obtain rfl := Except.ok.inj hlisted'
  refine ⟨files, hlisted, ?_⟩
  -- A listing without files reads none, so an empty one has no changes in either run.
  rcases hread with ⟨rfl, rfl⟩ | ⟨diff, s₁, hdiff, hread⟩
  · rcases hread' with ⟨-, rfl⟩ | ⟨diff', s₂, -, hread'⟩
    · exact .nil
    · obtain ⟨rfl, -⟩ := returns_pure.mp hread'
      exact .nil
  · rcases hread' with ⟨rfl, rfl⟩ | ⟨diff', s₂, hdiff', hread'⟩
    · obtain ⟨rfl, -⟩ := returns_pure.mp hread
      exact .nil
    · rw [hlists.diff, hdiff] at hdiff'
      obtain rfl := Except.ok.inj hdiff'
      exact sameReadings_of_readChanges hlists.commits hread hread'

end

end RuleDelta

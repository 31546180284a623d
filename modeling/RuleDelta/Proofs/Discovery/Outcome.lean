import RuleDelta.Proofs.Discovery.Files
import RuleDelta.Proofs.Discovery.SkipMarker
import RuleDelta.Proofs.Git.Query
import RuleDelta.Proofs.Text.Blank

/-!
# How a discovery ends

A run goes through its stages in order: the range of commits, the listing of the changed files, the
search for a skip marker, the changed files one by one, and the links. `Finder.Outcome` says once
how it can end, with its result, the commands that it asks and the events that it reports.

* `Outcome.does` says that a run does what its outcome says, and `exists_outcome` that it has one;
* `ends_find_iff` follows: a run ends as its outcome says, and in no other way.
-/

namespace RuleDelta

open Run Text

/-! ## Reasons -/

/-- The reason of an error that is turned into one of the listing of changed files. It is given
once: an error of the listing is not wrapped again. -/
def changeListReason : Error → String
  | .changeList reason => reason
  | e => e.message

/-- The reason of an error that is turned into one of the links. -/
def symlinkReason : Error → String
  | .symlink reason => reason
  | e => e.message

/-! ## Commits -/

/-- The commits that an answer lists: its lines that are not blank, without the blanks around
them. -/
def listedCommits (output : GitOutput) : List String :=
  ((lines output.stdout).filter fun line => !allBlank line).map fun line => String.ofList (trim line)

theorem commitsOf_eq (output : GitOutput) : commitsOf output = listedCommits output := by
  have hblank : ∀ line, (trim line).isEmpty = allBlank line := fun line => by
    rw [Bool.eq_iff_iff, List.isEmpty_iff, trim_eq_nil_iff]
  -- an empty line is blank, so it makes no difference that such lines are left out before
  have hempty : ∀ line : List Char, (!line.isEmpty && !allBlank line) = !allBlank line :=
    fun line => by cases line <;> simp [allBlank]
  calc commitsOf output
      = ((output.lines.filter fun line => !(trim line).isEmpty).map trim).map String.ofList := by
        rw [commitsOf, List.filter_map]
        rfl
    _ = (((lines output.stdout).filter fun line => !allBlank line).map trim).map
          String.ofList := by
        simp only [GitOutput.lines, List.filter_filter, hblank, Bool.and_comm, hempty]
    _ = listedCommits output := by
        rw [List.map_map]
        rfl

namespace Finder

variable {f : Finder}

theorem changeListError_eq (e : Error) : changeListError e = .changeList (changeListReason e) := by
  cases e <;> rfl

theorem aliasError_eq (e : Error) : aliasError e = .symlink (symlinkReason e) := by
  cases e <;> rfl

/-! ## Links -/

/-- The aliases that the patterns let through. -/
def kept (f : Finder) (aliases : List Entry) : List Entry :=
  aliases.filter fun e => f.filter.allows e.reportedPath

/-- The event of an alias. -/
def aliasEvent (e : Entry) : Event :=
  .aliasAdded e.reportedPath e.sourcePath

theorem does_keepAliases (aliases : List Entry) :
    (f.keepAliases aliases).Does (.ok (f.kept aliases)) [] ((f.kept aliases).map aliasEvent) := by
  induction aliases with
  | nil => exact does_pure []
  | cons a rest ih =>
    unfold keepAliases
    by_cases hallowed : f.filter.allows a.reportedPath = true
    · have hkept : f.kept (a :: rest) = a :: f.kept rest := List.filter_cons_of_pos hallowed
      rw [if_pos hallowed, hkept]
      exact (does_emit (aliasEvent a)).bind (ih.bind_pure _)
    · have hkept : f.kept (a :: rest) = f.kept rest := List.filter_cons_of_neg hallowed
      rw [if_neg hallowed, hkept]
      exact ih

theorem does_addAliases {entries aliases : List Entry} (h : f.resolver entries = .ok aliases) :
    (f.addAliases entries).Does (.ok (entries ++ f.kept aliases)) []
      ((f.kept aliases).map aliasEvent) := by
  have hresolve := does_liftExcept ((f.resolver entries).mapError aliasError)
  rw [h] at hresolve
  unfold addAliases
  rw [h]
  exact hresolve.bind ((does_keepAliases aliases).bind_pure _)

theorem does_addAliases_error {entries : List Entry} {e : Error}
    (h : f.resolver entries = .error e) :
    (f.addAliases entries).Does (.error (aliasError e)) [] [] := by
  have hresolve := does_liftExcept ((f.resolver entries).mapError aliasError)
  rw [h] at hresolve
  unfold addAliases
  rw [h]
  exact hresolve.bind_error

/-! ## The range of commits -/

/-- The command that lists the commits since the base branch. -/
def rangeCommand (f : Finder) : List String :=
  ["log", "--format=%H", "--no-abbrev-commit", "--reverse", f.baseBranch ++ "..HEAD"]

/-- There is no commit since the base branch. -/
def emptyRange (f : Finder) : Error :=
  .git s!"empty commit range: no commits on HEAD since {f.baseBranch}"

/-- These are the commits since the base branch: all that are listed, with the first as the oldest
and the last as the newest. -/
structure Resolves (f : Finder) (range : CommitRange) : Prop where
  answered : ∃ output, f.runner f.rangeCommand = .ok output ∧ range.commits = listedCommits output
  oldest : range.commits.head? = some range.oldest
  newest : range.commits.getLast? = some range.newest

/-- The events of a run up to its range of commits. -/
def opening (f : Finder) (range : CommitRange) : List Event :=
  [.started f.baseBranch,
    .commitRangeResolved range.oldest range.newest range.commits.length]

theorem ofCommits?_eq_none_iff {commits : List String} :
    CommitRange.ofCommits? commits = none ↔ commits = [] := by
  cases commits <;> simp [CommitRange.ofCommits?]

theorem ofCommits?_eq_some_iff {commits : List String} {range : CommitRange} :
    CommitRange.ofCommits? commits = some range ↔ range.commits = commits ∧
      commits.head? = some range.oldest ∧ commits.getLast? = some range.newest := by
  cases commits with
  | nil => simp [CommitRange.ofCommits?]
  | cons oldest rest =>
    obtain ⟨first, last, all⟩ := range
    simp only [CommitRange.ofCommits?, Option.some.injEq, CommitRange.mk.injEq, List.head?_cons,
      List.getLast?_cons, List.getLastD_eq_getLast?]
    constructor
    · rintro ⟨rfl, rfl, rfl⟩
      exact ⟨rfl, rfl, rfl⟩
    · rintro ⟨rfl, rfl, rfl⟩
      exact ⟨rfl, rfl, rfl⟩

/-- The range is that of the commits that are read from the answer. -/
theorem resolves_iff {range : CommitRange} : f.Resolves range ↔
    ∃ output, f.runner f.rangeCommand = .ok output ∧
      CommitRange.ofCommits? (commitsOf output) = some range := by
  simp only [ofCommits?_eq_some_iff, commitsOf_eq]
  constructor
  · rintro ⟨⟨output, hanswer, hcommits⟩, holdest, hnewest⟩
    exact ⟨output, hanswer, hcommits, hcommits ▸ holdest, hcommits ▸ hnewest⟩
  · rintro ⟨output, hanswer, hcommits, holdest, hnewest⟩
    exact ⟨⟨output, hanswer, hcommits⟩, hcommits ▸ holdest, hcommits ▸ hnewest⟩

theorem does_commitRange {range : CommitRange} (h : f.Resolves range) :
    (commitRange f.runner f.baseBranch).Does (.ok range) [f.rangeCommand] [] := by
  obtain ⟨output, hanswer, hrange⟩ := resolves_iff.mp h
  have hgit := does_git f.runner f.rangeCommand
  rw [hanswer] at hgit
  refine hgit.bind ?_
  simp only [hrange]
  exact does_pure range

theorem does_commitRange_refused {e : Error} (h : f.runner f.rangeCommand = .error e) :
    (commitRange f.runner f.baseBranch).Does (.error e) [f.rangeCommand] [] := by
  have hgit := does_git f.runner f.rangeCommand
  rw [h] at hgit
  exact hgit.bind_error

theorem does_commitRange_empty {output : GitOutput} (h : f.runner f.rangeCommand = .ok output)
    (hnone : listedCommits output = []) :
    (commitRange f.runner f.baseBranch).Does (.error f.emptyRange) [f.rangeCommand] [] := by
  have hgit := does_git f.runner f.rangeCommand
  rw [h] at hgit
  refine hgit.bind ?_
  simp only [commitsOf_eq, ofCommits?_eq_none_iff.mpr hnone]
  exact does_throw f.emptyRange

/-- The range is resolved, or there is none. -/
theorem resolves_or (f : Finder) :
    (∃ range, f.Resolves range) ∨ (∃ e, f.runner f.rangeCommand = .error e) ∨
      ∃ output, f.runner f.rangeCommand = .ok output ∧ listedCommits output = [] := by
  cases hanswer : f.runner f.rangeCommand with
  | error e => exact .inr (.inl ⟨e, rfl⟩)
  | ok output =>
    cases hrange : CommitRange.ofCommits? (commitsOf output) with
    | some range => exact .inl ⟨range, resolves_iff.mpr ⟨output, hanswer, hrange⟩⟩
    | none =>
      rw [commitsOf_eq, ofCommits?_eq_none_iff] at hrange
      exact .inr (.inr ⟨output, rfl, hrange⟩)

theorem does_readRange {range : CommitRange} (h : f.Resolves range)
    (hfew : range.commits.length ≤ f.maxCommits) : f.readRange.Does (.ok range) [f.rangeCommand]
      [.commitRangeResolved range.oldest range.newest range.commits.length] := by
  refine ((does_commitRange h).mapError _).bind ((does_emit _).bind ?_)
  rw [if_neg (by omega)]
  exact does_pure range

theorem does_readRange_tooMany {range : CommitRange} (h : f.Resolves range)
    (hmore : f.maxCommits < range.commits.length) :
    f.readRange.Does (.error (.tooManyCommits range.commits.length f.maxCommits))
      [f.rangeCommand]
      [.commitRangeResolved range.oldest range.newest range.commits.length] := by
  refine ((does_commitRange h).mapError _).bind ((does_emit _).bind ?_)
  rw [if_pos hmore]
  exact (does_throw _).bind_error

/-! ## How a run ends -/

/-- The range is one that the run goes on with. -/
structure Takes (f : Finder) (range : CommitRange) : Prop where
  resolves : f.Resolves range
  few : range.commits.length ≤ f.maxCommits

/-- These are the changed files of the range that the run goes on with. -/
structure Lists (f : Finder) (range : CommitRange) (files : List FileChange) : Prop where
  takes : f.Takes range
  gives : (changes f.runner range).Gives files

/-- No message of a commit of these changed files has a marker. -/
structure Reaches (f : Finder) (range : CommitRange) (files : List FileChange) : Prop where
  lists : f.Lists range files
  unmarked : ∀ commit ∈ scanOrder files, Unmarked f.runner commit

/-- The commands up to the listing of the changed files. -/
def listingCalls (f : Finder) (range : CommitRange) : List (List String) :=
  f.rangeCommand :: asked f.runner (changeQueries f.runner range)

/-- The commands up to the messages of these commits. -/
def messageCalls (f : Finder) (range : CommitRange) (commits : List String) : List (List String) :=
  f.listingCalls range ++ commits.map messageCommand

/-- How a run can end: with its result, the commands that it asks and the events that it reports. -/
inductive Outcome (f : Finder) :
    Except Error (List Entry) → List (List String) → List Event → Prop
  /-- The commits cannot be listed. -/
  | unlisted {e : Error} (refused : f.runner f.rangeCommand = .error e) :
      f.Outcome (.error (.commitRange e.message)) [f.rangeCommand] [.started f.baseBranch]
  /-- There is no commit. -/
  | empty {output : GitOutput} (answered : f.runner f.rangeCommand = .ok output)
      (nothing : listedCommits output = []) :
      f.Outcome (.error (.commitRange f.emptyRange.message)) [f.rangeCommand]
        [.started f.baseBranch]
  /-- There are too many commits. -/
  | tooMany {range : CommitRange} (resolves : f.Resolves range)
      (more : f.maxCommits < range.commits.length) :
      f.Outcome (.error (.tooManyCommits range.commits.length f.maxCommits)) [f.rangeCommand]
        (f.opening range)
  /-- The changed files cannot be listed. -/
  | unchanged {range : CommitRange} {e : Error} (takes : f.Takes range)
      (refused : firstRefusal? f.runner (changeQueries f.runner range) = some e) :
      f.Outcome (.error (.changeList (changeListReason e))) (f.listingCalls range)
        (f.opening range)
  /-- The message of a commit cannot be read, and no commit before it has a marker. -/
  | unreadable {range : CommitRange} {files : List FileChange} {front back : List String}
      {commit : String} {e : Error} (lists : f.Lists range files)
      (order : scanOrder files = front ++ commit :: back)
      (unmarked : ∀ c ∈ front, Unmarked f.runner c)
      (refused : f.runner (messageCommand commit) = .error e) :
      f.Outcome (.error (.commitMessage commit e.message))
        (f.messageCalls range (front ++ [commit])) (f.opening range)
  /-- The message of a commit has a marker, and no commit before it has one. -/
  | marked {range : CommitRange} {files : List FileChange} {front back : List String}
      {commit marker : String} {output : GitOutput} (lists : f.Lists range files)
      (order : scanOrder files = front ++ commit :: back)
      (unmarked : ∀ c ∈ front, Unmarked f.runner c)
      (answered : f.runner (messageCommand commit) = .ok output)
      (here : FirstMarker output.stdout marker) :
      f.Outcome (.ok []) (f.messageCalls range (front ++ [commit]))
        (f.opening range ++ [.skipMarkerFound commit marker])
  /-- A changed file ends the run, and none before it does. -/
  | refused {range : CommitRange} {front back : List FileChange} {change : FileChange}
      {entries : List Entry} {events : List Event} {e : Error}
      (reaches : f.Reaches range (front ++ change :: back))
      (yields : f.YieldsAll front entries events) (refuses : f.Refuses change e) :
      f.Outcome (.error e) (f.messageCalls range (scanOrder (front ++ change :: back)))
        (f.opening range ++ events)
  /-- The links cannot be resolved. -/
  | unresolved {range : CommitRange} {files : List FileChange} {entries : List Entry}
      {events : List Event} {e : Error} (reaches : f.Reaches range files)
      (yields : f.YieldsAll files entries events) (refused : f.resolver entries = .error e) :
      f.Outcome (.error (.symlink (symlinkReason e))) (f.messageCalls range (scanOrder files))
        (f.opening range ++ events)
  /-- The entries of all changed files are found, and the aliases of these. -/
  | found {range : CommitRange} {files : List FileChange} {entries aliases : List Entry}
      {events : List Event} (reaches : f.Reaches range files)
      (yields : f.YieldsAll files entries events) (resolved : f.resolver entries = .ok aliases) :
      f.Outcome (.ok (entries ++ f.kept aliases)) (f.messageCalls range (scanOrder files))
        (f.opening range ++ events ++ (f.kept aliases).map aliasEvent)

/-- What a run does with its changed files. -/
def search (f : Finder) (files : List FileChange) : Run (List Entry) := do
  match ← skipMarker? f.runner files with
  | some (commit, marker) => do
    Run.emit (.skipMarkerFound commit marker)
    return []
  | none => do f.addAliases (← f.readFiles files)

theorem find_eq (f : Finder) : f.find = Run.emit (.started f.baseBranch) >>= fun _ =>
    f.readRange >>= fun range =>
      Run.mapError changeListError (changes f.runner range) >>= f.search := rfl

section Ends

variable {range : CommitRange} {files : List FileChange} {r : Except Error (List Entry)}
  {calls : List (List String)} {events : List Event}

/-- A run does with its changed files what it does, behind the listing. -/
theorem does_find_of_lists (h : f.Lists range files)
    (hsearch : (f.search files).Does r calls events) :
    f.find.Does r (f.listingCalls range ++ calls) (f.opening range ++ events) := by
  have hlisting := (follows_changes.does_ok h.gives).mapError changeListError
  have hrange := does_readRange h.takes.resolves h.takes.few
  rw [find_eq]
  exact (does_emit _).bind (hrange.bind (hlisting.bind hsearch))

/-- Without a marker the changed files are read. -/
theorem does_find_of_reaches (h : f.Reaches range files)
    (hread : (f.readFiles files >>= f.addAliases).Does r [] events) :
    f.find.Does r (f.messageCalls range (scanOrder files)) (f.opening range ++ events) := by
  have hscan : MarkerScan f.runner (scanOrder files) (.ok none)
      ((scanOrder files).map messageCommand) := by
    simpa using MarkerScan.append h.unmarked .nil
  have hsearch : (f.search files).Does r ((scanOrder files).map messageCommand ++ []) events :=
    (does_skipMarker? hscan).bind hread
  rw [List.append_nil] at hsearch
  exact does_find_of_lists h.lists hsearch

/-- **A run does what its outcome says.** -/
theorem Outcome.does (h : f.Outcome r calls events) : f.find.Does r calls events := by
  have hstart := does_emit (.started f.baseBranch)
  cases h with
  | unlisted refused =>
    rw [find_eq]
    exact hstart.bind ((does_commitRange_refused refused).mapError _).bind_error.bind_error
  | empty answered nothing =>
    rw [find_eq]
    exact hstart.bind ((does_commitRange_empty answered nothing).mapError _).bind_error.bind_error
  | tooMany resolves more =>
    rw [find_eq]
    exact hstart.bind (does_readRange_tooMany resolves more).bind_error
  | unchanged takes refused =>
    have hlisting := (follows_changes.does_error refused).mapError changeListError
    rw [find_eq, ← changeListError_eq]
    exact hstart.bind ((does_readRange takes.resolves takes.few).bind hlisting.bind_error)
  | @unreadable range files front back commit e lists order unmarked refused =>
    have hscan := MarkerScan.append unmarked (.unreadable back refused)
    rw [← order] at hscan
    have hsearch : (f.search files).Does _ _ [] := (does_skipMarker? hscan).bind_error
    simpa [messageCalls] using does_find_of_lists lists hsearch
  | @marked range files front back commit marker output lists order unmarked answered here =>
    have hscan := MarkerScan.append unmarked (.marked back answered here)
    rw [← order] at hscan
    have hsearch : (f.search files).Does (.ok []) _ [.skipMarkerFound commit marker] :=
      (does_skipMarker? hscan).bind ((does_emit _).bind (does_pure []))
    simpa [messageCalls] using does_find_of_lists lists hsearch
  | refused reaches yields refuses =>
    exact does_find_of_reaches reaches (yields.does_refused refuses).bind_error
  | unresolved reaches yields refused =>
    have hread := yields.does.bind (does_addAliases_error refused)
    simp only [List.append_nil, aliasError_eq] at hread
    exact does_find_of_reaches reaches hread
  | found reaches yields resolved =>
    have hread := yields.does.bind (does_addAliases resolved)
    rw [List.append_assoc]
    exact does_find_of_reaches reaches hread

/-- A run has an outcome. -/
theorem exists_outcome (f : Finder) : ∃ r calls events, f.Outcome r calls events := by
  rcases f.resolves_or with ⟨range, hrange⟩ | ⟨e, he⟩ | ⟨output, houtput, hnone⟩
  · by_cases hmore : f.maxCommits < range.commits.length
    · exact ⟨_, _, _, .tooMany hrange hmore⟩
    have htakes : f.Takes range := ⟨hrange, by omega⟩
    rcases (@follows_changes f.runner range).gives_or_refused with ⟨files, hfiles⟩ | ⟨e, he⟩
    · have hlists : f.Lists range files := ⟨htakes, hfiles⟩
      rcases unmarked_or f.runner (scanOrder files) with
        hunmarked | ⟨front, commit, back, horder, hfront, ⟨e, he⟩ | ⟨output, marker, hread, hhere⟩⟩
      · rcases f.yieldsAll_or_refused files with
          ⟨entries, events, hyields⟩ | ⟨front, change, back, entries, events, e, rfl, hfront, he⟩
        · cases hresolver : f.resolver entries with
          | ok aliases => exact ⟨_, _, _, .found ⟨hlists, hunmarked⟩ hyields hresolver⟩
          | error e => exact ⟨_, _, _, .unresolved ⟨hlists, hunmarked⟩ hyields hresolver⟩
        · exact ⟨_, _, _, .refused ⟨hlists, hunmarked⟩ hfront he⟩
      · exact ⟨_, _, _, .unreadable hlists horder hfront he⟩
      · exact ⟨_, _, _, .marked hlists horder hfront hread hhere⟩
    · exact ⟨_, _, _, .unchanged htakes he⟩
  · exact ⟨_, _, _, .unlisted he⟩
  · exact ⟨_, _, _, .empty houtput hnone⟩

/-- **A run ends as its outcome says**, and it has no other. -/
theorem ends_find_iff : (∃ t, f.find.Ends .start r t ∧ t.calls = calls ∧ t.events = events) ↔
    f.Outcome r calls events := by
  constructor
  · rintro ⟨t, hends, rfl, rfl⟩
    obtain ⟨r', calls', events', h⟩ := f.exists_outcome
    obtain ⟨rfl, hcalls, hevents⟩ := h.does.of_ends hends
    rw [hcalls, hevents]
    exact h
  · intro h
    exact h.does .start

end Ends

end Finder

end RuleDelta

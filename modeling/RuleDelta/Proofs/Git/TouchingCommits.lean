import RuleDelta.Proofs.FirstOccurrence
import RuleDelta.Proofs.Git.Reading

/-!
# Which commits are taken to touch a file

The commits that touch a file are asked for with one command, whose arguments behind the separator
`--` restrict the log to paths. A path is added to the command unless the command holds it already,
and the command also holds words of its own. So a path that equals one of these words is missing: of
a file named `log` no path is left, and all commits of the range are taken to touch it.

* `ChangedFile.paths` are the paths of a file, `restrictedTo` those that a command is restricted to,
  and `touchingWords` the words in front of them;
* `TouchingQueries` says which of these commands a listing of changed files asks, and to what each
  is restricted; `touchingQueries_changes` proves it.
-/

namespace RuleDelta

open Run Text

/-! ## The command of a file -/

/-- The paths of a file, each once: that of its old side, and then that of its new one. -/
def ChangedFile.paths (file : ChangedFile) : List String :=
  (file.before?.toList ++ file.after?.toList).eraseDups

/-- The words of the command in front of its paths. -/
def touchingWords (range : CommitRange) : List String :=
  ["log", "--format=%H", range.oldest ++ "^.." ++ range.newest, "--"]

/-- The paths that a command is restricted to: its arguments behind the separator. -/
def restrictedTo (args : List String) : List String :=
  (args.dropWhile (· ≠ "--")).tail

theorem ChangedFile.paths_ne_nil (file : ChangedFile) : file.paths ≠ [] := by
  cases file <;> simp [paths, before?, after?, List.eraseDups_cons]

section

variable {runner : GitRunner} {range : CommitRange}

theorem addArgument_eq : addArgument = addNew :=
  rfl

/-- The words of the command stand in front of those paths that are none of them. -/
theorem touchingCommand_eq (range : CommitRange) (file : ChangedFile) :
    touchingCommand range file = touchingWords range ++
      file.paths.filter fun path => !(touchingWords range).contains path := by
  have hwords : ["log", "--format=%H", s!"{range.base}..{range.newest}", "--"] =
      touchingWords range := by
    simp [touchingWords, CommitRange.base, toString, String.append_assoc]
  rw [touchingCommand, addArgument_eq, hwords, foldl_addNew, filter_eraseDups]
  rfl

/-- The separator is the last of the words. -/
theorem restrictedTo_append (range : CommitRange) (paths : List String) :
    restrictedTo (touchingWords range ++ paths) = paths := by
  have hspan : range.oldest ++ "^.." ++ range.newest ≠ "--" := by
    intro heq
    have hdot : '.' ∈ (range.oldest ++ "^.." ++ range.newest).toList := by simp
    have hnot : '.' ∉ "--".toList := by decide
    exact hnot (heq ▸ hdot)
  simp [restrictedTo, touchingWords, hspan]

theorem restrictedTo_touchingCommand (range : CommitRange) (file : ChangedFile) :
    restrictedTo (touchingCommand range file) =
      file.paths.filter fun path => !(touchingWords range).contains path := by
  rw [touchingCommand_eq, restrictedTo_append]

/-! ## The commands of a listing -/

/-- The commands among others that list commits. -/
def logCalls (calls : List (List String)) : List (List String) :=
  calls.filter fun args => args.head? == some "log"

/-- The files that a listing of changed files goes through. -/
def filesOf (runner : GitRunner) (range : CommitRange) : List ChangedFile :=
  match listedFiles runner range with
  | .ok files => files
  | .error _ => []

/-- Which commits are taken to touch the changed files of a range. -/
structure TouchingQueries (runner : GitRunner) (range : CommitRange) : Prop where
  /-- The commits are asked for file by file, up to where the listing fails. -/
  asked : ∃ r calls, (changes runner range).Does r calls [] ∧
    logCalls calls <+: (filesOf runner range).map (touchingCommand range) ∧
    ∀ found, r = .ok found →
      logCalls calls = (filesOf runner range).map (touchingCommand range)
  /-- A file has a path, or two. -/
  paths_ne_nil : ∀ file : ChangedFile, file.paths ≠ []
  /-- The command of a file is restricted to its paths, without those that are words of it. -/
  restrictedTo_eq : ∀ file, restrictedTo (touchingCommand range file) =
    file.paths.filter fun path => !(touchingWords range).contains path
  /-- So it is restricted to the file if no path is a word of the command, -/
  restricted_iff : ∀ file, restrictedTo (touchingCommand range file) = file.paths ↔
    ∀ path ∈ file.paths, path ∉ touchingWords range
  /-- and to nothing if all are. -/
  unrestricted_iff : ∀ file, restrictedTo (touchingCommand range file) = [] ↔
    ∀ path ∈ file.paths, path ∈ touchingWords range

/-- The commands that are asked are the first ones of the queries. -/
theorem asked_prefix_args (qs : List Query) : asked runner qs <+: qs.map Query.args := by
  induction qs with
  | nil => exact List.prefix_refl _
  | cons q qs ih =>
    rw [asked, List.map_cons]
    split
    · exact List.cons_prefix_cons.mpr ⟨rfl, List.nil_prefix⟩
    · exact List.cons_prefix_cons.mpr ⟨rfl, ih⟩

theorem logCalls_append (calls calls' : List (List String)) :
    logCalls (calls ++ calls') = logCalls calls ++ logCalls calls' :=
  List.filter_append ..

/-- Reading a side of a file lists no commits. -/
theorem logCalls_sideCalls (revision : String) (path? : Option String) :
    logCalls (sideCalls runner revision path?) = [] := by
  cases path? with
  | none => rfl
  | some path =>
    unfold sideCalls
    cases linkAt? runner revision path <;> simp [logCalls, treeCommand, blobCommand]

/-- The commits that touch a file are listed once. -/
theorem logCalls_fileCalls (file : ChangedFile) :
    logCalls (fileCalls runner range file) = [touchingCommand range file] := by
  have hlog : logCalls [touchingCommand range file] = [touchingCommand range file] := by
    simp [logCalls, head?_touchingCommand]
  rw [fileCalls, logCalls_append, logCalls_append, logCalls_sideCalls, logCalls_sideCalls, hlog,
    List.nil_append, List.nil_append]

theorem logCalls_flatMap_fileCalls (files : List ChangedFile) :
    logCalls (files.flatMap (fileCalls runner range)) = files.map (touchingCommand range) := by
  induction files with
  | nil => rfl
  | cons file files ih =>
    rw [List.flatMap_cons, logCalls_append, logCalls_fileCalls, ih, List.map_cons,
      List.singleton_append]

/-- The comparisons of the ends of a range list no commits. -/
theorem logCalls_diffCommand (option : String) (calls : List (List String)) :
    logCalls (diffCommand range option :: calls) = logCalls calls :=
  List.filter_cons_of_neg (by simp [diffCommand])

/-- Each file of a listing has its command among those of the listing. -/
theorem logCalls_changeQueries :
    logCalls ((changeQueries runner range).map Query.args) =
      (filesOf runner range).map (touchingCommand range) := by
  unfold filesOf
  cases hlisted : listedFiles runner range with
  | error e =>
    unfold changeQueries
    rw [hlisted, List.append_nil]
    exact logCalls_diffCommand _ []
  | ok files =>
    rw [map_args_changeQueries hlisted, changeCalls, logCalls_diffCommand]
    cases files with
    | nil => rfl
    | cons file files =>
      rw [List.isEmpty_cons, if_neg Bool.false_ne_true, logCalls_diffCommand,
        logCalls_flatMap_fileCalls]

/-- **The commits of a file are asked for with its paths**, but for paths that are words of the
command. -/
theorem touchingQueries_changes (runner : GitRunner) (range : CommitRange) :
    TouchingQueries runner range where
  asked := by
    obtain ⟨r, hdoes, hrefusal⟩ := @follows_changes runner range
    refine ⟨r, _, hdoes, ?_, ?_⟩
    · rw [← logCalls_changeQueries]
      exact (asked_prefix_args _).filter _
    · rintro found rfl
      rw [asked_of_unrefused hrefusal.symm, logCalls_changeQueries]
  paths_ne_nil := ChangedFile.paths_ne_nil
  restrictedTo_eq := restrictedTo_touchingCommand range
  restricted_iff file := by
    rw [restrictedTo_touchingCommand, List.filter_eq_self]
    simp
  unrestricted_iff file := by
    rw [restrictedTo_touchingCommand, List.filter_eq_nil_iff]
    simp

end

/-- Two commits of a branch, of which one changes the file `log`. -/
def logRange : CommitRange := ⟨"b", "c", ["b", "c"]⟩

/-- The only changed file is `log`, and the newer commit changes it. Without a path, git lists both
commits. -/
def logRunner : GitRunner
  | [_, _, _, "--name-status", _, _, _, _] => .ok (.ofText "M\tlog\n".toList)
  | ["log", _, _, "--"] => .ok (.ofText "c\nb\n".toList)
  | ["log", _, _, "--", "log"] => .ok (.ofText "c\n".toList)
  | _ => .ok (.ofText [])

/-- Of a file named `log` no path is left in its command, so the older commit is taken to touch it
too. -/
theorem logFile_unrestricted :
    listedFiles logRunner logRange = .ok [.modified "log"] ∧
      (ChangedFile.modified "log").paths = ["log"] ∧
      restrictedTo (touchingCommand logRange (.modified "log")) = [] ∧
      commitsOf <$> (logRunner (touchingWords logRange ++ ["log"])).toOption = some ["c"] ∧
      ∃ change t', (changes logRunner logRange).Ends .start (.ok [change]) t' ∧
        touchingWords logRange ∈ t'.calls ∧ change.commits = ["c", "b"] := by
  have hrun : (changes logRunner logRange).Ends .start
      (.ok [⟨.ofFile "log", .ofFile "log", [], [], [], ["c", "b"]⟩]) _ :=
    ends_of_toOption (by decide +kernel)
  exact ⟨by cbv, by decide +kernel, by decide +kernel, by decide +kernel, _, _, hrun,
    by decide +kernel, rfl⟩

end RuleDelta

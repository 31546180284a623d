import RuleDelta.Proofs.Discovery.Outcome
import RuleDelta.Proofs.Git.TwoRunners

/-!
# Files that do not count

The files that the filter leaves out are read all the same, and their content then plays no role.
Two runners that only differ in how they answer for such files make a run end in the same way, as
long as both can read these files or both fail on them with one error (`sameReports_of_differs`).

* `DiffersOnRejected` says how the two runners may differ;
* `SameFor` relates the changed files of one run to those of the other, and `Outcome.sameReports`
  takes each way for a run to end from one to the other.
-/

namespace RuleDelta

open Run

namespace Finder

/-! ## Two runners -/

/-- The finder with another runner. -/
def withRunner (f : Finder) (runner : GitRunner) : Finder :=
  { f with runner }

/-- A changed file counts. -/
def Counts (f : Finder) (file : ChangedFile) : Prop :=
  f.filter.allows file.last = true

/-- Another runner answers as that of the finder does, except for the paths of files that do not
count. These it may list and print in another way, as long as it fails on none that the other can
read, and fails with the same error. -/
structure DiffersOnRejected (f : Finder) (runner' : GitRunner) : Prop where
  /-- Commands that neither list nor print a path have the same answer. -/
  others : ∀ args, args.head? ≠ some "ls-tree" → args.head? ≠ some "cat-file" →
    runner' args = f.runner args
  /-- The commands that read a file that counts have the same answer. -/
  counted : ∀ range files, f.Takes range → listedFiles f.runner range = .ok files →
    ∀ file ∈ files, f.Counts file → SameAnswers f.runner runner' range file
  /-- The commands that have to succeed for another file fail alike. -/
  rejected : ∀ range files, f.Takes range → listedFiles f.runner range = .ok files →
    ∀ file ∈ files, ¬f.Counts file → FailsAlike f.runner runner' range file

/-- A changed file has the same commits and the same name in both runs, and in both the same content
if it counts. -/
structure SameFor (f : Finder) (change change' : FileChange) : Prop where
  name : change'.after.name = change.after.name
  commits : change'.commits = change.commits
  same : f.filter.allows change.after.name = true → change' = change

variable {f : Finder} {runner' : GitRunner} {range : CommitRange} {files files' : List FileChange}
  {change change' : FileChange}

namespace DiffersOnRejected

theorem listsAlike (h : f.DiffersOnRejected runner') (htakes : f.Takes range) :
    ListsAlike f.runner runner' range where
  listing := h.others _ (by simp [diffCommand]) (by simp [diffCommand])
  diff := h.others _ (by simp [diffCommand]) (by simp [diffCommand])
  commits file := h.others _ (by simp [head?_touchingCommand]) (by simp [head?_touchingCommand])
  sides files hfiles file hfile := by
    by_cases hcounts : f.Counts file
    · exact (h.counted range files htakes hfiles file hfile hcounts).failsAlike
    · exact h.rejected range files htakes hfiles file hfile hcounts

theorem message (h : f.DiffersOnRejected runner') (commit : String) :
    runner' (messageCommand commit) = f.runner (messageCommand commit) :=
  h.others _ (by simp [messageCommand]) (by simp [messageCommand])

theorem rangeAnswer (h : f.DiffersOnRejected runner') :
    runner' f.rangeCommand = f.runner f.rangeCommand :=
  h.others _ (by simp [rangeCommand]) (by simp [rangeCommand])

theorem resolves (h : f.DiffersOnRejected runner') (hrange : f.Resolves range) :
    (f.withRunner runner').Resolves range := by
  obtain ⟨output, hanswer, hcommits⟩ := hrange.answered
  exact ⟨⟨output, h.rangeAnswer.trans hanswer, hcommits⟩, hrange.oldest, hrange.newest⟩

theorem takes (h : f.DiffersOnRejected runner') (htakes : f.Takes range) :
    (f.withRunner runner').Takes range :=
  ⟨h.resolves htakes.resolves, htakes.few⟩

/-- The other run lists the same files, and they have the same content where it counts. -/
theorem lists (h : f.DiffersOnRejected runner') (hlists : f.Lists range files) :
    ∃ files', (f.withRunner runner').Lists range files' ∧
      List.Forall₂ f.SameFor files files' := by
  have halike := h.listsAlike hlists.takes
  obtain ⟨files', hgives⟩ := exists_gives_changes halike hlists.gives
  obtain ⟨listed, hlisted, hread⟩ := sameReadings_of_changes halike hlists.gives hgives
  refine ⟨files', ⟨h.takes hlists.takes, hgives⟩, hread.imp ?_⟩
  rintro change change' ⟨file, hfile, hsame⟩
  refine ⟨hsame.name'.trans hsame.name.symm, hsame.commits, fun hallowed => hsame.same ?_⟩
  rw [hsame.name] at hallowed
  exact h.counted range listed hlists.takes hlisted file hfile hallowed

theorem unmarked (h : f.DiffersOnRejected runner') {commit : String}
    (hunmarked : Unmarked f.runner commit) : Unmarked runner' commit := by
  obtain ⟨output, hanswer, hmarker⟩ := hunmarked
  exact ⟨output, (h.message commit).trans hanswer, hmarker⟩

end DiffersOnRejected

/-! ## Changed files of two runs -/

theorem scanOrder_of_sameFor (h : List.Forall₂ f.SameFor files files') :
    scanOrder files' = scanOrder files := by
  have hcommits : files'.flatMap FileChange.commits = files.flatMap FileChange.commits := by
    induction h with
    | nil => rfl
    | cons hsame _ ih => rw [List.flatMap_cons, List.flatMap_cons, hsame.commits, ih]
  rw [scanOrder, scanOrder, hcommits]

/-- A file that is left out is left out of the other run, and any other is read there as well. -/
theorem Yields.sameFor {entries : List Entry} {events : List Event}
    (h : f.Yields change entries events) (hsame : f.SameFor change change') :
    (f.withRunner runner').Yields change' entries events := by
  cases h with
  | skipped left =>
    rw [← hsame.name] at left ⊢
    exact .skipped left
  | read allowed old new =>
    rw [hsame.same allowed]
    exact .read allowed old new

/-- A file that is left out ends no run. -/
theorem Refuses.sameFor {e : Error} (h : f.Refuses change e) (hsame : f.SameFor change change') :
    (f.withRunner runner').Refuses change' e := by
  cases h with
  | refused allowed old new =>
    rw [hsame.same allowed]
    exact .refused allowed old new
  | broken allowed broken =>
    rw [hsame.same allowed]
    exact .broken allowed broken

theorem YieldsAll.sameFor {entries : List Entry} {events : List Event}
    (h : f.YieldsAll files entries events) (hsame : List.Forall₂ f.SameFor files files') :
    (f.withRunner runner').YieldsAll files' entries events := by
  induction h generalizing files' with
  | nil =>
    cases hsame
    exact .nil
  | cons first _ ih =>
    cases hsame with
    | cons hfirst hrest => exact .cons (first.sameFor hfirst) (ih hrest)

/-- The files of the other run are split where those of the first one are. -/
theorem exists_split_of_sameFor {front back : List FileChange}
    (h : List.Forall₂ f.SameFor (front ++ change :: back) files') :
    ∃ front' change' back', files' = front' ++ change' :: back' ∧
      List.Forall₂ f.SameFor front front' ∧ f.SameFor change change' := by
  induction front generalizing files' with
  | nil =>
    obtain ⟨change', back', hsame, -, rfl⟩ := List.forall₂_cons_left_iff.mp h
    exact ⟨[], change', back', rfl, .nil, hsame⟩
  | cons first front ih =>
    obtain ⟨first', rest', hfirst, hrest, rfl⟩ := List.forall₂_cons_left_iff.mp h
    obtain ⟨front', change', back', rfl, hfront, hsame⟩ := ih hrest
    exact ⟨first' :: front', change', back', rfl, .cons hfirst hfront, hsame⟩

/-! ## How both runs end -/

/-- The other run reaches its changed files if the first one does. -/
theorem DiffersOnRejected.reaches (h : f.DiffersOnRejected runner')
    (hreaches : f.Reaches range files) : ∃ files', (f.withRunner runner').Reaches range files' ∧
      List.Forall₂ f.SameFor files files' := by
  obtain ⟨files', hlists, hsame⟩ := h.lists hreaches.lists
  refine ⟨files', ⟨hlists, fun commit hcommit => h.unmarked ?_⟩, hsame⟩
  rw [scanOrder_of_sameFor hsame] at hcommit
  exact hreaches.unmarked commit hcommit

/-- **Each way for a run to end is one for the other run**, with the same events. -/
theorem Outcome.sameReports {r : Except Error (List Entry)} {calls : List (List String)}
    {events : List Event} (houtcome : f.Outcome r calls events)
    (h : f.DiffersOnRejected runner') :
    ∃ calls', (f.withRunner runner').Outcome r calls' events := by
  cases houtcome with
  | unlisted refused => exact ⟨_, .unlisted (h.rangeAnswer.trans refused)⟩
  | empty answered nothing => exact ⟨_, .empty (h.rangeAnswer.trans answered) nothing⟩
  | tooMany resolves more => exact ⟨_, .tooMany (h.resolves resolves) more⟩
  | unchanged takes refused =>
    have hrefused := firstRefusal?_changeQueries_congr (h.listsAlike takes)
    exact ⟨_, .unchanged (h.takes takes) (hrefused.trans refused)⟩
  | unreadable lists order unmarked refused =>
    obtain ⟨files', hlists, hsame⟩ := h.lists lists
    exact ⟨_, .unreadable hlists ((scanOrder_of_sameFor hsame).trans order)
      (fun c hc => h.unmarked (unmarked c hc)) ((h.message _).trans refused)⟩
  | marked lists order unmarked answered here =>
    obtain ⟨files', hlists, hsame⟩ := h.lists lists
    exact ⟨_, .marked hlists ((scanOrder_of_sameFor hsame).trans order)
      (fun c hc => h.unmarked (unmarked c hc)) ((h.message _).trans answered) here⟩
  | refused reaches yields refuses =>
    obtain ⟨files', hreaches, hsame⟩ := h.reaches reaches
    obtain ⟨front', change', back', rfl, hfront, hchange⟩ := exists_split_of_sameFor hsame
    exact ⟨_, .refused hreaches (yields.sameFor hfront) (refuses.sameFor hchange)⟩
  | unresolved reaches yields refused =>
    obtain ⟨files', hreaches, hsame⟩ := h.reaches reaches
    exact ⟨_, .unresolved hreaches (yields.sameFor hsame) refused⟩
  | found reaches yields resolved =>
    obtain ⟨files', hreaches, hsame⟩ := h.reaches reaches
    exact ⟨_, .found hreaches (yields.sameFor hsame) resolved⟩

/-- **Files that do not count play no role in how a run ends**, as long as reading them does not
fail in one of two runs alone. -/
theorem sameReports_of_differs (h : f.DiffersOnRejected runner') :
    ((f.withRunner runner').find.outcome .start).1 = (f.find.outcome .start).1 ∧
      ((f.withRunner runner').find.outcome .start).2.events =
        (f.find.outcome .start).2.events := by
  obtain ⟨r, calls, events, houtcome⟩ := f.exists_outcome
  obtain ⟨calls', houtcome'⟩ := houtcome.sameReports h
  obtain ⟨t, hends, -, hevents⟩ := houtcome.does .start
  obtain ⟨t', hends', -, hevents'⟩ := houtcome'.does .start
  rw [hends, hends', hevents, hevents']
  exact ⟨rfl, rfl⟩

end Finder

/-- One commit changes a submodule and adds a file with a rule. What is printed of the submodule is
given. -/
def submoduleRunner (printed : Except Error GitOutput) : GitRunner
  | [_, _, _, "--name-status", _, _, _, _] => .ok (.ofText "M\tsub\nA\trules/a\n".toList)
  | "log" :: _ => .ok (.ofText ['c'])
  | ["cat-file", "blob", "c^:sub"] | ["cat-file", "blob", "c:sub"] => printed
  | ["cat-file", "blob", "c:rules/a"] => .ok (.ofText "rules:\n- alert: x\n".toList)
  | _ => .ok (.ofText [])

/-- Only rule files count. -/
def rulesOnly : PathFilter :=
  ⟨((PatternList.compile patternReader "include" ["^rules/"]).toOption).getD [], []⟩

/-- The finder that looks at the rule file only. -/
def submoduleFinder (printed : Except Error GitOutput) : Finder where
  runner := submoduleRunner printed
  parser := RuleFile.parse
  resolver := noAliases
  baseBranch := "main"
  maxCommits := 20
  filter := rulesOnly
  relaxed := []

section

variable {printed : Except Error GitOutput} {range : CommitRange} {files : List ChangedFile}

theorem submoduleFinder_takes (h : (submoduleFinder printed).Takes range) :
    range = oneCommit := by
  obtain ⟨output, hanswer, hrange⟩ := Finder.resolves_iff.mp h.resolves
  obtain rfl : GitOutput.ofText ['c'] = output := Except.ok.inj hanswer
  have honly : CommitRange.ofCommits? (commitsOf (.ofText ['c'])) = some oneCommit := by
    decide +kernel
  exact (Option.some.inj (honly.symm.trans hrange)).symm

theorem submoduleRunner_listed
    (h : listedFiles (submoduleRunner printed) oneCommit = .ok files) :
    files = [.modified "sub", .added "rules/a"] := by
  have honly : listedFiles (submoduleRunner printed) oneCommit =
      .ok [.modified "sub", .added "rules/a"] := by
    cbv
  rw [honly] at h
  exact (Except.ok.inj h).symm

theorem submoduleRunner_calls :
    fileCalls (submoduleRunner printed) oneCommit (.added "rules/a") =
      [treeCommand "c" "rules/a", blobCommand "c" "rules/a",
        touchingCommand oneCommit (.added "rules/a")] := by
  have hlisted : submoduleRunner printed (treeCommand "c" "rules/a") = .ok (.ofText []) := by cbv
  have hprinted : submoduleRunner printed (blobCommand "c" "rules/a") =
      .ok (.ofText "rules:\n- alert: x\n".toList) := by
    cbv
  have hfile : linkAt? (submoduleRunner printed) "c" "rules/a" = none := by
    rw [linkAt?, hlisted, hprinted]
    rfl
  simp [fileCalls, sideCalls, ChangedFile.before?, ChangedFile.after?, oneCommit, hfile]

end

theorem failsAlike_submodule (text text' : List Char) :
    FailsAlike (submoduleRunner (.ok (.ofText text))) (submoduleRunner (.ok (.ofText text')))
      oneCommit (.modified "sub") where
  before path hpath := by
    obtain rfl := Option.some.inj hpath
    exact ⟨by cbv, by cbv⟩
  after path hpath := by
    obtain rfl := Option.some.inj hpath
    exact ⟨by cbv, by cbv⟩

/-- Whatever is printed of the submodule. -/
theorem differs_submoduleFinder (text text' : List Char) :
    (submoduleFinder (.ok (.ofText text))).DiffersOnRejected
      (submoduleRunner (.ok (.ofText text'))) where
  others args htree hprint := by
    change submoduleRunner _ args = submoduleRunner _ args
    unfold submoduleRunner
    split
    · rfl
    · rfl
    · exact absurd rfl hprint
    · exact absurd rfl hprint
    · rfl
    · rfl
  counted range files htakes hlisted := by
    obtain rfl := submoduleFinder_takes htakes
    obtain rfl := submoduleRunner_listed hlisted
    have hout : rulesOnly.allows "sub" = false := by decide +kernel
    have hsub : ¬(submoduleFinder (.ok (.ofText text))).Counts (.modified "sub") := by
      change ¬rulesOnly.allows "sub" = true
      simp [hout]
    have hrule : SameAnswers (submoduleRunner (.ok (.ofText text)))
        (submoduleRunner (.ok (.ofText text'))) oneCommit (.added "rules/a") := by
      unfold SameAnswers
      rw [submoduleRunner_calls]
      simp only [List.forall_mem_cons]
      exact ⟨by cbv, by cbv, by cbv, List.forall_mem_nil _⟩
    simp only [List.forall_mem_cons]
    exact ⟨fun hcounts => absurd hcounts hsub, fun _ => hrule, List.forall_mem_nil _⟩
  rejected range files htakes hlisted := by
    obtain rfl := submoduleFinder_takes htakes
    obtain rfl := submoduleRunner_listed hlisted
    have hin : rulesOnly.allows "rules/a" = true := by decide +kernel
    simp only [List.forall_mem_cons]
    exact ⟨fun _ => failsAlike_submodule text text', fun hcounts => absurd hin hcounts,
      List.forall_mem_nil _⟩

theorem sameReports_submoduleFinder :
    (submoduleFinder (.ok (.ofText ['x']))).DiffersOnRejected
        (submoduleRunner (.ok (.ofText ['y']))) ∧
      (((submoduleFinder (.ok (.ofText ['x']))).find.outcome .start).1.toOption.map fun entries =>
        entries.map fun e => (e.sourcePath, e.rule.name, e.state)) =
          some [("rules/a", "x", .added)] ∧
      ((submoduleFinder (.ok (.ofText ['y']))).find.outcome .start).1 =
        ((submoduleFinder (.ok (.ofText ['x']))).find.outcome .start).1 := by
  have hdiffers := differs_submoduleFinder ['x'] ['y']
  exact ⟨hdiffers, by decide +kernel, (Finder.sameReports_of_differs hdiffers).1⟩

/-- A submodule that does not count ends a run when it cannot be printed. -/
theorem submodule_endsRun :
    (∀ args, args ≠ blobCommand "c^" "sub" → args ≠ blobCommand "c" "sub" →
        submoduleRunner (.error (.git "bad file")) args =
          submoduleRunner (.ok (.ofText ['x'])) args) ∧
      listedFiles (submoduleRunner (.ok (.ofText ['x']))) oneCommit =
        .ok [.modified "sub", .added "rules/a"] ∧
      rulesOnly.allows "sub" = false ∧
      (∃ entries, ((submoduleFinder (.ok (.ofText ['x']))).find.outcome .start).1 = .ok entries) ∧
      ∃ e, ((submoduleFinder (.error (.git "bad file"))).find.outcome .start).1 = .error e := by
  have hbase : blobCommand "c^" "sub" = ["cat-file", "blob", "c^:sub"] := by decide +kernel
  have hnewest : blobCommand "c" "sub" = ["cat-file", "blob", "c:sub"] := by decide +kernel
  have hprinted : ((submoduleFinder (.ok (.ofText ['x']))).find.outcome .start).1.toOption.isSome =
      true := by decide +kernel
  have hunprinted :
      ((submoduleFinder (.error (.git "bad file"))).find.outcome .start).1.toOption = none := by
    rw [← Option.isNone_iff_eq_none]
    decide +kernel
  refine ⟨fun args hold hnew => ?_, by cbv, by decide +kernel, ?_, ?_⟩
  · rw [hbase] at hold
    rw [hnewest] at hnew
    unfold submoduleRunner
    split
    · rfl
    · rfl
    · exact absurd rfl hold
    · exact absurd rfl hnew
    · rfl
    · rfl
  · cases hr : ((submoduleFinder (.ok (.ofText ['x']))).find.outcome .start).1 with
    | ok entries => exact ⟨entries, rfl⟩
    | error e => simp [hr, Except.toOption] at hprinted
  · cases hr : ((submoduleFinder (.error (.git "bad file"))).find.outcome .start).1 with
    | ok entries => simp [hr, Except.toOption] at hunprinted
    | error e => exact ⟨e, rfl⟩

end RuleDelta

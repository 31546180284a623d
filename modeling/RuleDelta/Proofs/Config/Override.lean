import RuleDelta.CommandLine.Discover
import RuleDelta.Proofs.Text.Utf8

/-!
# Flags over the settings of a file

The flags of a command line stand over the settings of a file, but the file has to be one that a run
can go with even without them. So two files that differ below the flags only make no difference to a
run as long as what the flags hide could be used by itself; a value that could not ends the run.

* `AgreeBeside` and `UsableBelow` speak about the settings that flags leave alone and hide;
* `validate_congr` compares what is refused, and `override_congr` what is left under the flags;
* `prepare_congr_and_refuses` is what that says about a discovery.
-/

namespace RuleDelta

open Text

/-! ## Settings beside and below the flags -/

/-- Two configurations have the same values where the flags say nothing. -/
structure AgreeBeside (args : DiscoverArgs) (c c' : Config) : Prop where
  baseBranch : args.baseBranch = none → c.baseBranch = c'.baseBranch
  maxCommits : args.maxCommits = none → c.maxCommits = c'.maxCommits
  included : args.included = [] → c.included = c'.included
  excluded : args.excluded = [] → c.excluded = c'.excluded
  relaxed : args.relaxed = [] → c.relaxed = c'.relaxed

/-- All patterns can be read. -/
def Readable (patterns : PatternReader) (sources : List String) : Prop :=
  ∀ source ∈ sources, ∃ isMatch, patterns source.toList = .ok isMatch

/-- The values of a configuration that flags stand over could be used without them. -/
structure UsableBelow (patterns : PatternReader) (args : DiscoverArgs) (c : Config) : Prop where
  baseBranch : args.baseBranch ≠ none → allBlank c.baseBranch.toList = false
  maxCommits : args.maxCommits ≠ none → 0 < c.maxCommits
  included : args.included ≠ [] → Readable patterns c.included
  excluded : args.excluded ≠ [] → Readable patterns c.excluded
  relaxed : args.relaxed ≠ [] → Readable patterns c.relaxed

section

variable {args : DiscoverArgs} {c c' : Config}

/-- Only the settings that flags leave alone are left of a file. -/
theorem override_congr (h : AgreeBeside args c c') : c.override args = c'.override args := by
  have hbranch : args.baseBranch.getD c.baseBranch = args.baseBranch.getD c'.baseBranch := by
    cases hargs : args.baseBranch with
    | none => exact h.baseBranch hargs
    | some _ => rfl
  have hcount : args.maxCommits.getD c.maxCommits = args.maxCommits.getD c'.maxCommits := by
    cases hargs : args.maxCommits with
    | none => exact h.maxCommits hargs
    | some _ => rfl
  have hlist : ∀ (flags file file' : List String), (flags = [] → file = file') →
      (if flags.isEmpty then file else flags) = if flags.isEmpty then file' else flags := by
    intro flags file file' hfile
    cases flags with
    | nil => exact hfile rfl
    | cons _ _ => rfl
  simp only [Config.override, hbranch, hcount, hlist _ _ _ h.included, hlist _ _ _ h.excluded,
    hlist _ _ _ h.relaxed]

end

/-! ## What is refused -/

namespace Config

/-- Refuses a base branch without a visible character. -/
def checkBranch (branch : String) : Except ConfigError Unit :=
  if allBlank branch.toList then .error .emptyBaseBranch else .ok ()

/-- Refuses a maximum of zero commits. -/
def checkCount (count : Nat) : Except ConfigError Unit :=
  if count = 0 then .error .zeroMaxCommits else .ok ()

section

variable (patterns : PatternReader)

/-- Refuses the first pattern of a setting that cannot be read. -/
def checkPatterns (field : String) (sources : List String) : Except ConfigError Unit :=
  (badPattern (PatternList.compile patterns field sources)).map fun _ => ()

/-- The settings are checked one after the other, each by itself. -/
theorem validate_eq (c : Config) : c.validate patterns = (do
    checkBranch c.baseBranch
    checkCount c.maxCommits
    checkPatterns patterns "include" c.included
    checkPatterns patterns "exclude" c.excluded
    checkPatterns patterns "relaxed" c.relaxed) := by
  unfold validate checkBranch checkCount checkPatterns pathFilter relaxedPatterns PathFilter.compile
  by_cases hblank : allBlank c.baseBranch.toList = true
  · simp only [hblank, if_true]
    rfl
  · by_cases hzero : c.maxCommits = 0
    · simp only [hblank, hzero, if_true]
      rfl
    · simp only [hblank, hzero, if_false]
      cases PatternList.compile patterns "include" c.included with
      | error e => rfl
      | ok included =>
        cases PatternList.compile patterns "exclude" c.excluded with
        | error e => rfl
        | ok excluded => cases PatternList.compile patterns "relaxed" c.relaxed <;> rfl

theorem checkPatterns_of_readable (field : String) {sources : List String}
    (h : Readable patterns sources) : checkPatterns patterns field sources = .ok () := by
  have hcompile : ∃ compiled, PatternList.compile patterns field sources = .ok compiled := by
    unfold PatternList.compile
    induction sources with
    | nil => exact ⟨[], rfl⟩
    | cons source sources ih =>
      obtain ⟨⟨isMatch, hsource⟩, hsources⟩ := List.forall_mem_cons.mp h
      obtain ⟨compiled, hcompiled⟩ := ih hsources
      exact ⟨⟨source, isMatch⟩ :: compiled, by rw [List.mapM_cons, hcompiled, hsource]; rfl⟩
  obtain ⟨compiled, hcompiled⟩ := hcompile
  rw [checkPatterns, hcompiled]
  rfl

end

end Config

open Config

/-- Two configurations are refused alike, if what the flags stand over could be used in both. -/
theorem validate_congr {patterns : PatternReader} {args : DiscoverArgs} {c c' : Config}
    (h : AgreeBeside args c c') (hc : UsableBelow patterns args c)
    (hc' : UsableBelow patterns args c') : c.validate patterns = c'.validate patterns := by
  have hbranch : checkBranch c.baseBranch = checkBranch c'.baseBranch := by
    by_cases hargs : args.baseBranch = none
    · rw [h.baseBranch hargs]
    · rw [checkBranch, hc.baseBranch hargs, checkBranch, hc'.baseBranch hargs]
  have hcount : checkCount c.maxCommits = checkCount c'.maxCommits := by
    by_cases hargs : args.maxCommits = none
    · rw [h.maxCommits hargs]
    · rw [checkCount, if_neg (Nat.pos_iff_ne_zero.mp (hc.maxCommits hargs)), checkCount,
        if_neg (Nat.pos_iff_ne_zero.mp (hc'.maxCommits hargs))]
  have hlist : ∀ (field : String) {flags file file' : List String}, (flags = [] → file = file') →
      (flags ≠ [] → Readable patterns file) → (flags ≠ [] → Readable patterns file') →
      checkPatterns patterns field file = checkPatterns patterns field file' := by
    intro field flags file file' hbeside hfile hfile'
    by_cases hflags : flags = []
    · rw [hbeside hflags]
    · rw [checkPatterns_of_readable patterns field (hfile hflags),
        checkPatterns_of_readable patterns field (hfile' hflags)]
  rw [validate_eq, validate_eq, hbranch, hcount, hlist _ h.included hc.included hc'.included,
    hlist _ h.excluded hc.excluded hc'.excluded, hlist _ h.relaxed hc.relaxed hc'.relaxed]

/-! ## Discoveries -/

/-- The file with the settings of a discovery in a repository. -/
def settingsPath (args : DiscoverArgs) (root : String) : String :=
  args.config.getD (joinPath root usualFile)

/-- A discovery at a workplace finds the top of a repository, and its file of settings holds a
configuration. Whether the configuration can be used is not asked. -/
structure Holds (format : SettingsFormat) (w : Workplace) (args : DiscoverArgs) (root : String)
    (c : Config) : Prop where
  root_eq : repositoryRoot w (w.directory args.repo) = .ok root
  file : ∃ text, w.files.readText w.here (settingsPath args root).toList = .ok text ∧
    Config.read format text = .ok c

namespace Holds

variable {libraries : Libraries} {w : Workplace} {args : DiscoverArgs} {root : String} {c : Config}

theorem findFor_eq {format : SettingsFormat} (patterns : PatternReader)
    (h : Holds format w args root c) :
    Config.findFor format patterns w.files w.here args.config root = c.validated patterns := by
  obtain ⟨text, htext, hread⟩ := h.file
  have hload : Config.load format patterns w.files w.here (settingsPath args root) =
      c.validated patterns := by
    rw [Config.load, htext]
    show (Config.read format text >>= validated patterns) = _
    rw [hread]
    rfl
  unfold settingsPath at htext hload
  cases hasked : args.config with
  | some path =>
    rw [hasked] at hload
    exact hload
  | none =>
    rw [hasked] at htext hload
    have hfile : w.files.isFile w.here (joinPath root usualFile).toList = true := by
      unfold FileTree.isFile
      cases hbytes : w.files.readBytes w.here (joinPath root usualFile).toList with
      | ok bytes => rfl
      | error fault =>
        rw [Option.getD_none, FileTree.readText, hbytes] at htext
        cases htext
    simpa [Config.findFor, hfile] using hload

theorem prepare_eq (h : Holds libraries.settings w args root c) : prepare libraries w args =
    (do
      c.validate libraries.patterns
      let config ← effectiveConfig libraries.patterns args c
      return (root, config)).mapError .config := by
  unfold prepare
  rw [h.root_eq]
  show (do
    let found ← (Config.findFor libraries.settings libraries.patterns w.files w.here args.config
      root).mapError Error.config
    let config ← (effectiveConfig libraries.patterns args found).mapError Error.config
    return (root, config)) = _
  rw [h.findFor_eq libraries.patterns, validated]
  cases c.validate libraries.patterns with
  | error e => rfl
  | ok _ =>
    show (do
      let config ← (effectiveConfig libraries.patterns args c).mapError Error.config
      return (root, config)) = _
    cases effectiveConfig libraries.patterns args c <;> rfl

end Holds

/-- **Flags over two files.** Two files that agree beside the flags give the same configuration, or
the same error, if both could be used without the flags too. A file that could not is refused for
what is wrong with it, and no flag changes that. -/
theorem prepare_congr_and_refuses {libraries : Libraries} {w w' : Workplace} {args : DiscoverArgs}
    {root : String} {c c' : Config} (h : Holds libraries.settings w args root c)
    (h' : Holds libraries.settings w' args root c') (hbeside : AgreeBeside args c c') :
    (UsableBelow libraries.patterns args c → UsableBelow libraries.patterns args c' →
        prepare libraries w args = prepare libraries w' args) ∧
      ∀ e, c.validate libraries.patterns = .error e →
        prepare libraries w args = .error (.config e) := by
  constructor
  · intro hc hc'
    rw [h.prepare_eq, h'.prepare_eq, validate_congr hbeside hc hc', effectiveConfig,
      effectiveConfig, override_congr hbeside]
  · intro e he
    rw [h.prepare_eq, he]
    rfl

/-! ### A maximum under a flag -/

/-- A repository at the top with a text in the usual file. -/
def settledPlace (text : List Char) : Workplace where
  files := ⟨[([usualFile.toList], .file (Utf8.encode text))]⟩
  here := []
  program _ _ := .ok ⟨.code 0, Utf8.encode ['/', '\n'], []⟩

/-- A discovery that is asked for at most three commits. -/
def threeAsked : DiscoverArgs where
  baseBranch := none
  maxCommits := some 3
  included := []
  excluded := []
  relaxed := []
  config := none
  format := .text
  repo := none
  events := none

/-- The defaults but for the maximum. -/
def withMaximum (count : Nat) : Config :=
  { Config.default with maxCommits := count }

theorem agreeBeside_withMaximum (count count' : Nat) :
    AgreeBeside threeAsked (withMaximum count) (withMaximum count') :=
  ⟨fun _ => rfl, nofun, fun _ => rfl, fun _ => rfl, fun _ => rfl⟩

/-- The usual file at the top is found and read. -/
theorem holds_settledPlace {format : SettingsFormat} {text : List Char} {c : Config}
    (h : Config.read format text = .ok c) : Holds format (settledPlace text) threeAsked "/" c := by
  refine ⟨?_, text, ?_, h⟩
  · have hasked : (["/", "rev-parse", "--show-toplevel"].any fun arg =>
        arg.toList.contains (Char.ofNat 0)) = false := by decide +kernel
    have htop : (settledPlace text).files.resolve [] "/".toList = .ok [] := by
      simp [FileTree.resolve, FileTree.follow, FileTree.walk, FileTree.isDirectory,
        FileTree.node?, FileTree.start, splitAt]
    have hstarted : (settledPlace text).startGit "/" ["rev-parse", "--show-toplevel"] =
        .ok ⟨.code 0, Utf8.encode ['/', '\n'], []⟩ := by
      simp only [Workplace.startGit, hasked, show (settledPlace text).here = [] from rfl, htop]
      rfl
    have hprinted : GitOutput.ofBytes (Utf8.encode ['/', '\n']) [] =
        ⟨['/'], [], Utf8.encode ['/', '\n']⟩ := by decide +kernel
    show repositoryRoot (settledPlace text) "/" = .ok "/"
    unfold repositoryRoot gitIn
    rw [hstarted]
    simp only [ProcessOutput.answer, if_true, hprinted]
  · have hplace : (settledPlace text).files.resolve [] "/.rulediff.yaml".toList =
        .ok [usualFile.toList] := by
      simp [FileTree.resolve, FileTree.follow, FileTree.walk, FileTree.isDirectory,
        FileTree.node?, FileTree.start, splitAt, settledPlace, usualFile]
      decide +kernel
    show (settledPlace text).files.readText [] "/.rulediff.yaml".toList = .ok text
    have hbytes : (settledPlace text).files.readBytes [] "/.rulediff.yaml".toList =
        .ok (Utf8.encode text) := by
      rw [FileTree.readBytes, hplace]
      rfl
    simp only [FileTree.readText, hbytes, bind, Except.bind, Utf8.decode_encode]
    rfl

theorem usableBelow_withMaximum (patterns : PatternReader) {count : Nat} (h : 0 < count) :
    UsableBelow patterns threeAsked (withMaximum count) :=
  ⟨fun hargs => absurd rfl hargs, fun _ => h, fun hargs => absurd rfl hargs,
    fun hargs => absurd rfl hargs, fun hargs => absurd rfl hargs⟩

theorem holds_five : Holds Libraries.own.settings (settledPlace "max_commits: 5\n".toList)
    threeAsked "/" (withMaximum 5) :=
  holds_settledPlace rfl

theorem holds_zero : Holds Libraries.own.settings (settledPlace "max_commits: 0\n".toList)
    threeAsked "/" (withMaximum 0) :=
  holds_settledPlace rfl

/-- Maxima of five and of seven commits make no difference under the flag, and one of zero is
refused. -/
theorem prepare_five_seven_and_zero :
    prepare .own (settledPlace "max_commits: 5\n".toList) threeAsked =
        prepare .own (settledPlace "max_commits: 7\n".toList) threeAsked ∧
      (withMaximum 0).validate patternReader = .error .zeroMaxCommits ∧
      prepare .own (settledPlace "max_commits: 0\n".toList) threeAsked =
        .error (.config .zeroMaxCommits) := by
  have hseven : Holds Libraries.own.settings (settledPlace "max_commits: 7\n".toList)
      threeAsked "/" (withMaximum 7) := holds_settledPlace rfl
  have hzero : (withMaximum 0).validate patternReader = .error .zeroMaxCommits := rfl
  refine ⟨?_, hzero, ?_⟩
  · exact (prepare_congr_and_refuses holds_five hseven (agreeBeside_withMaximum 5 7)).1
      (usableBelow_withMaximum _ (by decide)) (usableBelow_withMaximum _ (by decide))
  · exact (prepare_congr_and_refuses holds_zero hseven (agreeBeside_withMaximum 0 7)).2 _ hzero

/-- Not all that flags stand over is without a meaning: a maximum of zero ends a run that five
would not end, though the flag says three. -/
theorem not_forall_prepare_congr :
    ¬∀ (w w' : Workplace) (args : DiscoverArgs) (root : String) (c c' : Config),
      Holds Libraries.own.settings w args root c → Holds Libraries.own.settings w' args root c' →
        AgreeBeside args c c' → prepare .own w args = prepare .own w' args := by
  intro h
  have hsame := h _ _ _ _ _ _ holds_zero holds_five (agreeBeside_withMaximum 0 5)
  have hrefused : prepare .own (settledPlace "max_commits: 0\n".toList) threeAsked =
      .error (.config .zeroMaxCommits) := by
    rw [holds_zero.prepare_eq]
    rfl
  have haccepted : prepare .own (settledPlace "max_commits: 5\n".toList) threeAsked =
      .ok ("/", withMaximum 3) := by
    rw [holds_five.prepare_eq]
    rfl
  rw [hrefused, haccepted] at hsame
  cases hsame

end RuleDelta

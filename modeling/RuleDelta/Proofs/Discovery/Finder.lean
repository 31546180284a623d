import RuleDelta.Discovery.TreeLink
import RuleDelta.Proofs.Change.Classification
import RuleDelta.Proofs.Git.Change

/-!
# What a discovery returns

A run that returns is taken apart stage by stage: the entries of a pairing, of a changed file, of
all changed files, and of the links that lead to them. Each entry comes from one of the changed files,
and its lines are those that its state asks for (`reports_of_find`).
-/

namespace RuleDelta

open Run RuleFile Text

/-- What the search for links returns are entries that it was given, under other paths. -/
def AliasResolver.Copies (resolver : AliasResolver) : Prop :=
  ∀ entries aliases, resolver entries = .ok aliases →
    ∀ a ∈ aliases, ∃ e ∈ entries, ∃ path, a = e.reportedAs path

/-- The links of a working tree lead to copies of entries. -/
theorem copies_treeAliases (tree : FileTree) (here : Place) (root : List Char) :
    AliasResolver.Copies (treeAliases tree here root) := by
  intro entries aliases h a ha
  unfold treeAliases at h
  cases hlinks : tree.findLinks here root with
  | error e =>
    rw [hlinks] at h
    cases h
  | ok links =>
    rw [hlinks] at h
    obtain rfl := Except.ok.inj h
    obtain ⟨e, he, ha⟩ := List.mem_flatMap.mp ha
    split at ha
    · cases ha
    · obtain ⟨link, -, rfl⟩ := List.mem_map.mp ha
      exact ⟨e, he, link.path, rfl⟩

namespace Finder

variable {f : Finder} {t t' : Trace} {entries : List Entry}

theorem ofConfig_eq_ok {patterns : PatternReader} {runner : GitRunner} {parser : RuleParser}
    {resolver : AliasResolver} {config : Config}
    (h : ofConfig patterns runner parser resolver config = .ok f) :
    f.runner = runner ∧ f.parser = parser ∧ f.resolver = resolver := by
  unfold ofConfig at h
  cases hfilter : config.pathFilter patterns with
  | error e =>
    rw [hfilter] at h
    cases h
  | ok filter =>
    cases hrelaxed : config.relaxedPatterns patterns with
    | error e =>
      rw [hfilter, hrelaxed] at h
      cases h
    | ok relaxed =>
      rw [hfilter, hrelaxed] at h
      obtain rfl := Except.ok.inj h
      exact ⟨rfl, rfl, rfl⟩

/-! ## The stages of a run -/

theorem returns_classifyPairings {change : FileChange} {ps : List Pairing}
    (h : (classifyPairings change ps).Ends t (.ok entries) t') :
    entries = ps.filterMap (classify change) := by
  induction ps generalizing t t' entries with
  | nil => simpa using (returns_pure.mp h).1
  | cons p ps ih =>
    simp only [classifyPairings, returns_bind, returns_pure] at h
    obtain ⟨-, s, -, rest, s', hrest, rfl, -⟩ := h
    rw [ih hrest]
    cases hp : classify change p <;> simp [hp]

/-- The rules of the old side are those that the parser returns, or none. -/
theorem returns_readBefore {change : FileChange}
    (h : (f.readBefore change).Ends t (.ok entries) t') : entries = [] ∨
      ∃ mode, f.parser change.before.effective change.before.name change.bodyBefore mode =
        .ok entries := by
  simp only [readBefore] at h
  generalize (if f.relaxed.matchesAny change.before.name then ParseMode.lenient else .strict) =
    mode at h
  split at h
  · rename_i found hfound
    obtain ⟨rfl, -⟩ := returns_pure.mp h
    exact .inr ⟨mode, hfound⟩
  · exact .inl (returns_pure.mp h).1
  · cases (ends_throw.mp h).1

/-- The rules of the new side are those that the parser returns. -/
theorem returns_readAfter {change : FileChange}
    (h : (f.readAfter change).Ends t (.ok entries) t') :
    f.parser change.after.effective change.after.name change.bodyAfter .strict = .ok entries := by
  unfold readAfter at h
  split at h
  · rename_i found hfound
    obtain ⟨rfl, -⟩ := returns_pure.mp h
    exact hfound
  · cases (ends_throw.mp h).1
  · cases (ends_throw.mp h).1

theorem returns_keepAliases {aliases : List Entry}
    (h : (f.keepAliases aliases).Ends t (.ok entries) t') :
    entries = aliases.filter fun e => f.filter.allows e.reportedPath := by
  induction aliases generalizing t t' entries with
  | nil => simpa using (returns_pure.mp h).1
  | cons a rest ih =>
    unfold keepAliases at h
    split at h
    · rename_i hallowed
      simp only [returns_bind, returns_pure] at h
      obtain ⟨-, s, -, kept, s', hkept, rfl, -⟩ := h
      simp [hallowed, ih hkept]
    · rename_i hrefused
      simpa [hrefused] using ih h

/-- The entries of a run are those of its changed files, and then allowed copies of these. -/
theorem returns_addAliases {found : List Entry}
    (h : (f.addAliases found).Ends t (.ok entries) t') :
    ∃ aliases, f.resolver found = .ok aliases ∧
      entries = found ++ aliases.filter fun e => f.filter.allows e.reportedPath := by
  simp only [addAliases, returns_bind, ends_liftExcept, returns_pure] at h
  obtain ⟨aliases, s, ⟨haliases, rfl⟩, kept, s', hkept, rfl, -⟩ := h
  refine ⟨aliases, ?_, by rw [returns_keepAliases hkept]⟩
  cases hresolver : f.resolver found with
  | ok found' =>
    rw [hresolver] at haliases
    exact haliases.symm
  | error e =>
    rw [hresolver] at haliases
    cases haliases

/-- The pairs of a changed file whose path counts are classified one by one. -/
theorem returns_readFile {change : FileChange}
    (h : (f.readFile change).Ends t (.ok entries) t') : entries = [] ∨
      ∃ before after s₁ s₂, (f.readBefore change).Ends t (.ok before) s₁ ∧
        (f.readAfter change).Ends s₁ (.ok after) s₂ ∧
        entries = classifyAll change before after := by
  unfold readFile at h
  split at h
  · simp only [returns_bind, returns_pure] at h
    obtain ⟨-, s, -, hempty, -⟩ := h
    exact .inl hempty
  · simp only [returns_bind] at h
    obtain ⟨before, s₁, hbefore, after, s₂, hafter, hentries⟩ := h
    exact .inr ⟨before, after, s₁, s₂, hbefore, hafter, returns_classifyPairings hentries⟩

/-- These are the changed files that a run from this trace reads. -/
def ReadsFiles (f : Finder) (t : Trace) (files : List FileChange) : Prop :=
  ∃ range s₁ s₂,
    f.readRange.Ends { t with events := t.events ++ [.started f.baseBranch] } (.ok range) s₁ ∧
      (changes f.runner range).Ends s₁ (.ok files) s₂

/-- A run that returns has gone through its stages, unless a commit ended it before. -/
theorem returns_find (h : f.find.Ends t (.ok entries) t') :
    ∃ files, f.ReadsFiles t files ∧
      (entries = [] ∨ ∃ found s₃ s₄ s₅, (f.readFiles files).Ends s₃ (.ok found) s₄ ∧
        (f.addAliases found).Ends s₄ (.ok entries) s₅) := by
  simp only [find, returns_bind, ends_emit, returns_mapError] at h
  obtain ⟨-, s, ⟨-, rfl⟩, range, s₁, hrange, files, s₂, hfiles, marker?, s₃, -, h⟩ := h
  refine ⟨files, ⟨range, s₁, s₂, hrange, hfiles⟩, ?_⟩
  split at h
  · simp only [returns_bind, returns_pure] at h
    obtain ⟨-, s₄, -, hempty, -⟩ := h
    exact .inl hempty
  · simp only [returns_bind] at h
    obtain ⟨found, s₄, hfound, haliases⟩ := h
    exact .inr ⟨found, s₃, s₄, t', hfound, haliases⟩

theorem ReadsFiles.ascending {files : List FileChange} (h : f.ReadsFiles t files) :
    ∀ change ∈ files, change.modifiedLines.Pairwise (· < ·) := by
  obtain ⟨range, s₁, s₂, -, hfiles⟩ := h
  exact ascending_of_changes hfiles

/-! ## The lines of the entries -/

section

variable {reader : YamlReader}

/-- The entries of a changed file report the lines that their states ask for. -/
theorem reports_of_readFile {change : FileChange} (hparser : f.parser = parseWith reader)
    (hchange : change.modifiedLines.Pairwise (· < ·))
    (h : (f.readFile change).Ends t (.ok entries) t') :
    ∀ e ∈ entries, e.Reports reader change := by
  rcases returns_readFile h with rfl | ⟨before, after, s₁, s₂, hbefore, hafter, rfl⟩
  · simp
  intro e he
  obtain ⟨p, hp, hclassify⟩ := List.mem_filterMap.mp he
  obtain ⟨hmemBefore, hmemAfter⟩ := mem_of_mem_pairEntries hp
  have hnew := returns_readAfter hafter
  rw [hparser] at hnew
  have hafters : ∀ a, p.after? = some a →
      a.IsReadFrom reader .strict change.after.effective change.bodyAfter :=
    fun a ha => isReadFrom_of_parseWith hnew a (hmemAfter a ha)
  -- an old side that cannot be read has no rules, in any mode
  have hbefores : ∃ mode, ∀ b, p.before? = some b →
      b.IsReadFrom reader mode change.before.effective change.bodyBefore := by
    rcases returns_readBefore hbefore with rfl | ⟨mode, hold⟩
    · exact ⟨.strict, fun b hb => absurd (hmemBefore b hb) (by simp)⟩
    · rw [hparser] at hold
      exact ⟨mode, fun b hb => isReadFrom_of_parseWith hold b (hmemBefore b hb)⟩
  obtain ⟨mode, hbefores⟩ := hbefores
  exact reports_of_classify hbefores hafters hchange hclassify

/-- The entries of changed files come from one of them each. -/
theorem reports_of_readFiles {files : List FileChange} (hparser : f.parser = parseWith reader)
    (hfiles : ∀ change ∈ files, change.modifiedLines.Pairwise (· < ·))
    (h : (f.readFiles files).Ends t (.ok entries) t') :
    ∀ e ∈ entries, ∃ change ∈ files, e.Reports reader change := by
  induction files generalizing t t' entries with
  | nil =>
    obtain ⟨rfl, -⟩ := returns_pure.mp h
    simp
  | cons change rest ih =>
    obtain ⟨hchange, hrest⟩ := List.forall_mem_cons.mp hfiles
    simp only [readFiles, returns_bind, returns_pure] at h
    obtain ⟨here, s, hhere, others, s', hothers, rfl, -⟩ := h
    intro e he
    rcases List.mem_append.mp he with he | he
    · exact ⟨change, List.mem_cons_self, reports_of_readFile hparser hchange hhere e he⟩
    · obtain ⟨change', hmem, hreports⟩ := ih hrest hothers e he
      exact ⟨change', List.mem_cons_of_mem _ hmem, hreports⟩

/-- **The entries of a run report the lines that their states ask for.** -/
theorem reports_of_find {patterns : PatternReader} {runner : GitRunner} {resolver : AliasResolver}
    {config : Config} (hfinder : ofConfig patterns runner (parseWith reader) resolver config = .ok f)
    (hresolver : resolver.Copies) (h : f.find.Ends t (.ok entries) t') :
    ∃ files, f.ReadsFiles t files ∧
      ∀ e ∈ entries, (∃ change ∈ files, e.Reports reader change) ∧
        e.modifiedLines.Pairwise (· < ·) := by
  obtain ⟨-, hparser, rfl⟩ := ofConfig_eq_ok hfinder
  obtain ⟨files, hfiles, hend⟩ := returns_find h
  have hascending := hfiles.ascending
  -- the lines ascend as soon as an entry fits one of the changes
  suffices key : ∀ e ∈ entries, ∃ change ∈ files, e.Reports reader change by
    refine ⟨files, hfiles, fun e he => ⟨key e he, ?_⟩⟩
    obtain ⟨change, hchange, hreports⟩ := key e he
    exact hreports.lines.ascending (hascending change hchange)
  rcases hend with rfl | ⟨found, s₃, s₄, s₅, hfound, haliases⟩
  · simp
  · have hreports := reports_of_readFiles hparser hascending hfound
    obtain ⟨aliases, hresolved, rfl⟩ := returns_addAliases haliases
    intro e he
    rcases List.mem_append.mp he with he | he
    · exact hreports e he
    · obtain ⟨source, hsource, path, rfl⟩ :=
        hresolver found aliases hresolved e (List.mem_filter.mp he).1
      obtain ⟨change, hchange, hfits⟩ := hreports source hsource
      exact ⟨change, hchange, hfits.reportedAs path⟩

end

end Finder

/-! ## A renamed file -/

/-- The content of a file with one rule. -/
def renamedContent : List UInt8 :=
  Utf8.encode "rules:\n- alert: x\n".toList

/-- One commit renames that file. -/
def renamedRunner : GitRunner
  | "log" :: _ => .ok ⟨['c'], [], []⟩
  | "cat-file" :: _ => .ok ⟨[], [], renamedContent⟩
  | [_, _, _, "--name-status", _, _, _, _] => .ok ⟨"R100\tb\ta".toList, [], []⟩
  | _ => .ok ⟨[], [], []⟩

/-- One link leads to each file. -/
def oneLink : AliasResolver := fun entries =>
  .ok (entries.map fun e => e.reportedAs "l")

/-- The finder of the usual configuration for that file. -/
def renamedFinder : Finder where
  runner := renamedRunner
  parser := RuleFile.parse
  resolver := oneLink
  baseBranch := "main"
  maxCommits := 20
  filter := ⟨[], []⟩
  relaxed := []

/-- The entry of the rule in that file. -/
def renamedEntry (path : String) : Entry where
  sourcePath := "a"
  reportedPath := path
  rule := ⟨"x", .alerting, .single 2, .mapping [(.string "alert", .string "x")]⟩
  state := .moved
  modifiedLines := [1, 2]
  pathError := none

theorem copies_oneLink : AliasResolver.Copies oneLink := by
  intro entries aliases h a ha
  obtain rfl := Except.ok.inj h
  obtain ⟨e, he, rfl⟩ := List.mem_map.mp ha
  exact ⟨e, he, "l", rfl⟩

theorem renamedFinder_returns : (renamedFinder.find.outcome .start).1 =
    .ok [renamedEntry "a", renamedEntry "l"] := by
  cbv

theorem renamed_reports :
    Finder.ofConfig patternReader renamedRunner (parseWith yamlReader) oneLink .default =
        .ok renamedFinder ∧
      AliasResolver.Copies oneLink ∧ ∃ t, renamedFinder.find.Ends .start
        (.ok [renamedEntry "a", renamedEntry "l"]) t ∧
      ∃ files, renamedFinder.ReadsFiles .start files ∧
        ∀ e ∈ [renamedEntry "a", renamedEntry "l"],
          (∃ change ∈ files, e.Reports yamlReader change) ∧ e.modifiedLines.Pairwise (· < ·) := by
  have hfinder : Finder.ofConfig patternReader renamedRunner (parseWith yamlReader) oneLink
      .default = .ok renamedFinder := rfl
  have hrun : renamedFinder.find.Ends .start (.ok [renamedEntry "a", renamedEntry "l"])
      (renamedFinder.find.outcome .start).2 := ends_outcome renamedFinder_returns
  exact ⟨hfinder, copies_oneLink, _, hrun, Finder.reports_of_find hfinder copies_oneLink hrun⟩

end RuleDelta

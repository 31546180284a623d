import RuleDelta.Proofs.Change.Pairing
import RuleDelta.Proofs.Discovery.Finder
import RuleDelta.Proofs.Discovery.Outcome
import RuleDelta.Proofs.RuleFile.Range

/-!
# Entries and events mirror each other

What a run returns and what it reports come from different places, and they say the same. A changed
file that counts has one entry for each rule of its new side, in order, and then one for each rule
that is gone, and each of them has its event. `MirrorsFile` says so of a file, `Mirrored` of a run,
and `mirrored_of_find` proves it.
-/

namespace RuleDelta

open Run

/-! ## The entries of pairings -/

/-- The entry is that of a rule of the new side. -/
structure Entry.IsKept (e a : Entry) : Prop where
  rule : e.rule = a.rule
  sourcePath : e.sourcePath = a.sourcePath
  reportedPath : e.reportedPath = a.reportedPath
  state : e.state ∈ [.added, .modified, .moved, .excluded]

/-- The lines of one entry come before those of another, or both entries stand on the line of one key
for rules. -/
def Entry.Precedes (e e' : Entry) : Prop :=
  e.rule.lines.Before e'.rule.lines ∨
    ∃ line, e.rule.lines = .single line ∧ e'.rule.lines = .single line

/-- The entries of a rule file are in the order of the file. -/
theorem RuleFile.pairwise_precedes {reader : YamlReader} {sourcePath shownPath : String}
    {content : List UInt8} {mode : ParseMode} {entries : List Entry}
    (h : parseWith reader sourcePath shownPath content mode = .ok entries) :
    entries.Pairwise Entry.Precedes := by
  obtain ⟨rules, hrules, rfl⟩ := parseWith_eq_ok h
  refine List.pairwise_map.mpr ((located_of_rulesOfBytes hrules).apart.imp ?_)
  rintro a b (hbefore | ⟨g, -, -, ha, hb⟩)
  · exact .inl hbefore
  · exact .inr ⟨g.keyLine, ha, hb⟩

/-- The entry of a rule of the old side that is gone. -/
def Entry.gone (b : Entry) : Entry :=
  { b with state := .removed }

/-- Pairings that all have entries have the events of these. -/
theorem map_classifyEvent {change : FileChange} {ps : List Pairing} {entries : List Entry}
    (h : ps.map (classify change) = entries.map some) :
    ps.map (classifyEvent change) = entries.map .classified := by
  induction ps generalizing entries with
  | nil =>
    obtain rfl : entries = [] := List.map_eq_nil_iff.mp h.symm
    rfl
  | cons p ps ih =>
    cases entries with
    | nil => cases h
    | cons e entries =>
      obtain ⟨hp, hps⟩ := List.cons.inj h
      rw [List.map_cons, List.map_cons, ih hps, classifyEvent, hp]

/-- A pairing with a rule of the new side has an entry of that rule. -/
theorem exists_classify_of_after (change : FileChange) {p : Pairing} {a : Entry}
    (h : p.after? = some a) : ∃ e, classify change p = some e ∧ e.IsKept a := by
  obtain ⟨before?, after?, isIdentical, wasMoved⟩ := p
  obtain rfl : after? = some a := h
  cases before? with
  | none => exact ⟨a.changedBy change .added, rfl, rfl, rfl, rfl, by simp [Entry.changedBy]⟩
  | some b =>
    refine ⟨_, rfl, ?_⟩
    unfold Pairing.keptEntry
    split
    · exact ⟨rfl, rfl, rfl, by simp⟩
    · split
      · exact ⟨rfl, rfl, rfl, by simp⟩
      · exact ⟨rfl, rfl, rfl, by simp [Entry.changedBy]⟩

/-- The rules of the new side have their entries in order. -/
theorem PairRun.exists_map_classify {before after left : List Entry} {paired : List Pairing}
    (h : PairRun before after paired left) (change : FileChange) :
    ∃ kept, List.Forall₂ Entry.IsKept kept after ∧
      paired.map (classify change) = kept.map some := by
  induction h with
  | nil => exact ⟨[], .nil, rfl⟩
  | @cons pool pool' left after a p paired step _ ih =>
    obtain ⟨kept, hkept, hmap⟩ := ih
    obtain ⟨e, he, hkeptAs⟩ := exists_classify_of_after change step.after?_eq
    exact ⟨e :: kept, .cons hkeptAs hkept, by rw [List.map_cons, List.map_cons, he, hmap]⟩

/-- **The pairings of two sides have the entries of the new side, and then those of rules that are
gone.** No pairing is without an entry. -/
theorem exists_map_classify_pairEntries (change : FileChange) (before after : List Entry) :
    ∃ kept left : List Entry, List.Forall₂ Entry.IsKept kept after ∧
      (∃ partners, (partners ++ left).Perm before) ∧
      (pairEntries before after).map (classify change) =
        (kept ++ left.map Entry.gone).map some := by
  obtain ⟨paired, left, hrun, heq⟩ := exists_pairRun before after
  obtain ⟨kept, hkept, hmap⟩ := hrun.exists_map_classify change
  refine ⟨kept, left, hkept, ⟨_, hrun.perm⟩, ?_⟩
  rw [heq, List.map_append, List.map_append, hmap, List.map_map, List.map_map]
  rfl

namespace Finder

/-! ## Changed files -/

variable {f : Finder} {change : FileChange}

/-- The entries of a changed file and its events mirror each other. -/
inductive MirrorsFile (f : Finder) (change : FileChange) : List Entry → List Event → Prop
  /-- The patterns leave the file out. -/
  | skipped (left : f.filter.allows change.after.name = false) :
      f.MirrorsFile change [] [.fileSkipped change.after.name]
  /-- The file has one entry for each rule of its new side, in order, and then those of rules of its
  old side that have no partner. -/
  | read {before after kept left : List Entry} (allowed : f.filter.allows change.after.name = true)
      (new : f.parseAfter change = .ok after) (old : f.HasBefore change before)
      (keptAs : List.Forall₂ Entry.IsKept kept after)
      (leftOf : ∃ partners, (partners ++ left).Perm before) :
      f.MirrorsFile change (kept ++ left.map Entry.gone)
        ((kept ++ left.map Entry.gone).map .classified)

theorem Yields.mirrors {entries : List Entry} {events : List Event}
    (h : f.Yields change entries events) : f.MirrorsFile change entries events := by
  cases h with
  | skipped left => exact .skipped left
  | @read before after allowed old new =>
    obtain ⟨kept, left, hkept, hleft, hmap⟩ :=
      exists_map_classify_pairEntries change before after
    have hentries : classifyAll change before after = kept ++ left.map Entry.gone :=
      filterMap_eq_of_map_eq hmap
    have hevents := map_classifyEvent hmap
    rw [hentries, hevents]
    exact .read allowed new old hkept hleft

/-- The entries of several files and their events mirror each other file by file. -/
theorem YieldsAll.mirrors {files : List FileChange} {entries : List Entry} {events : List Event}
    (h : f.YieldsAll files entries events) : ∃ blocks : List (List Entry × List Event),
      List.Forall₂ (fun change block => f.MirrorsFile change block.1 block.2) files blocks ∧
        entries = blocks.flatMap Prod.fst ∧ events = blocks.flatMap Prod.snd := by
  induction h with
  | nil => exact ⟨[], .nil, rfl, rfl⟩
  | @cons change rest here others events later first _ ih =>
    obtain ⟨blocks, hblocks, rfl, rfl⟩ := ih
    exact ⟨(here, events) :: blocks, .cons first.mirrors hblocks, rfl, rfl⟩

/-! ## Runs -/

/-- The entries of a run and its events mirror each other. -/
structure Mirrored (f : Finder) (range : CommitRange) (files : List FileChange)
    (blocks : List (List Entry × List Event)) (aliases entries : List Entry)
    (events : List Event) : Prop where
  /-- The range and its changed files are those of the run. -/
  reaches : f.Reaches range files
  /-- Each changed file has its entries and its events. -/
  mirrors : List.Forall₂ (fun change block => f.MirrorsFile change block.1 block.2) files blocks
  /-- The rules of a new side are in the order of the file, for any reader of YAML. -/
  inOrder : ∀ reader, f.parser = RuleFile.parseWith reader → ∀ change ∈ files, ∀ after,
    f.parseAfter change = .ok after → after.Pairwise Entry.Precedes
  resolved : f.resolver (blocks.flatMap Prod.fst) = .ok aliases
  /-- The entries are those of the files, and then the aliases that count. -/
  returned : entries = blocks.flatMap Prod.fst ++ f.kept aliases
  /-- The events are those of the files, and then those of the aliases. -/
  reported : events = f.opening range ++ blocks.flatMap Prod.snd ++ (f.kept aliases).map aliasEvent
  paired : ∀ path, Event.unknownPairing path ∉ events

/-- No pairing of a changed file is without an entry. -/
theorem MirrorsFile.paired {entries : List Entry} {events : List Event}
    (h : f.MirrorsFile change entries events) (path : String) :
    Event.unknownPairing path ∉ events := by
  cases h with
  | skipped => simp
  | read => simp [Event.classified]

theorem paired_of_mirrors {files : List FileChange} {blocks : List (List Entry × List Event)}
    (h : List.Forall₂ (fun change block => f.MirrorsFile change block.1 block.2) files blocks)
    (path : String) : Event.unknownPairing path ∉ blocks.flatMap Prod.snd := by
  induction h with
  | nil => simp
  | cons first _ ih =>
    rw [List.flatMap_cons, List.mem_append, not_or]
    exact ⟨first.paired path, ih⟩

/-- **The entries of a run and its events mirror each other**, unless a commit ended it before. -/
theorem mirrored_of_find {t : Trace} {entries : List Entry}
    (h : f.find.Ends .start (.ok entries) t)
    (hmarker : ∀ commit marker, Event.skipMarkerFound commit marker ∉ t.events) :
    ∃ range files blocks aliases, f.Mirrored range files blocks aliases entries t.events := by
  have houtcome := ends_find_iff.mp ⟨t, h, rfl, rfl⟩
  generalize t.calls = calls at houtcome
  generalize t.events = events at houtcome hmarker ⊢
  cases houtcome with
  | @marked range files front back commit marker => exact absurd (by simp) (hmarker commit marker)
  | @found range files entries aliases events reaches yields resolved =>
    obtain ⟨blocks, hblocks, rfl, rfl⟩ := yields.mirrors
    refine ⟨range, files, blocks, aliases, reaches, hblocks, ?_, resolved, rfl, rfl, ?_⟩
    · intro reader hparser change _ after hafter
      rw [parseAfter, hparser] at hafter
      exact RuleFile.pairwise_precedes hafter
    · intro path
      simp [opening, aliasEvent, paired_of_mirrors hblocks path]

end Finder

theorem renamedFinder_reports : (renamedFinder.find.outcome .start).2.events =
    [.started "main", .commitRangeResolved "c" "c" 1,
      .entryClassified "x" .moved "a" (.single 2) [1, 2], .aliasAdded "l" "a"] := by
  cbv

theorem mirrored_renamedFinder :
    ∃ t, renamedFinder.find.Ends .start (.ok [renamedEntry "a", renamedEntry "l"]) t ∧
      (∀ commit marker, Event.skipMarkerFound commit marker ∉ t.events) ∧
      ∃ range files blocks aliases, renamedFinder.Mirrored range files blocks aliases
        [renamedEntry "a", renamedEntry "l"] t.events := by
  have hrun := ends_outcome renamedFinder_returns
  have hmarker : ∀ commit marker, Event.skipMarkerFound commit marker ∉
      (renamedFinder.find.outcome .start).2.events := by
    simp [renamedFinder_reports]
  exact ⟨_, hrun, hmarker, Finder.mirrored_of_find hrun hmarker⟩

end RuleDelta

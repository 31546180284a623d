import Mathlib
import RuleDelta.Proofs.RuleFile.Spans
import RuleDelta.Proofs.Text.Line
import RuleDelta.RuleFile.Parse

/-!
# The lines of the rules of a file

Every rule that is read from a file has lines of that file, and the lines of two rules are apart:
those of the earlier rule come first, unless both rules stand under one key whose items have no
lines of their own and take the line of the key. The reader of YAML has no part in this; the lines come
from the scan alone.

* `RuleGroup.Gives` are the lines that a key can give to its rules;
* `Located` says it of the rules of a text, whether they are read together or one by one;
* `RangesApart` says it of the entries of a file, and `parseWith_rangesApart` proves it.
-/

namespace RuleDelta.RuleFile

open Text

/-! ## The rules of one key -/

/-- The lines that a key can give to a rule: those of an item, or its own line when no item has
lines. -/
def RuleGroup.Gives (g : RuleGroup) (r : LineRange) : Prop :=
  r ∈ g.blocks.map RuleBlock.lines ∨ (g.blocks = [] ∧ r = .single g.keyLine)

theorem RuleGroup.Gives.mem_spans {g : RuleGroup} {r : LineRange} (h : g.Gives r) :
    r ∈ g.spans := by
  rcases h with h | ⟨-, rfl⟩
  · exact List.mem_cons_of_mem _ h
  · exact List.mem_cons_self

/-- The lines of two rules, the first of which stands before the second. -/
def Apart (gs : List RuleGroup) (r s : LineRange) : Prop :=
  r.Before s ∨ ∃ g ∈ gs, g.blocks = [] ∧ r = .single g.keyLine ∧ s = .single g.keyLine

theorem Apart.mono {gs hs : List RuleGroup} {r s : LineRange} (h : Apart gs r s)
    (hsub : ∀ g ∈ gs, g ∈ hs) : Apart hs r s := by
  rcases h with h | ⟨g, hg, hrest⟩
  · exact .inl h
  · exact .inr ⟨g, hsub g hg, hrest⟩

theorem map_lines_zipWith {blocks : List RuleBlock} {items : List Yaml.Value}
    (h : blocks.length = items.length) :
    (List.zipWith (fun b body => Rule.ofBody b.lines body) blocks items).map Rule.lines =
      blocks.map RuleBlock.lines := by
  induction blocks generalizing items with
  | nil => rfl
  | cons b blocks ih =>
    cases items with
    | nil => simp at h
    | cons body items =>
      rw [List.zipWith_cons_cons, List.map_cons, List.map_cons, ih (by simpa using h)]
      rfl

/-- The rules of a key have the lines of its items one by one, or all have the line of the key. -/
theorem RuleGroup.rules?_eq_some {g : RuleGroup} {items : List Yaml.Value} {rules : List Rule}
    (h : g.rules? items = some rules) :
    rules.map Rule.lines = g.blocks.map RuleBlock.lines ∨
      (g.blocks = [] ∧ ∀ r ∈ rules, r.lines = .single g.keyLine) := by
  unfold RuleGroup.rules? at h
  split at h
  · rename_i hlength
    rw [← Option.some.inj h]
    exact .inl (map_lines_zipWith hlength)
  · split at h
    · rename_i hempty
      rw [← Option.some.inj h]
      refine .inr ⟨List.isEmpty_iff.mp hempty, fun r hr => ?_⟩
      obtain ⟨body, -, rfl⟩ := List.mem_map.mp hr
      rfl
    · cases h

theorem RuleGroup.gives_of_rules? {g : RuleGroup} {items : List Yaml.Value} {rules : List Rule}
    (h : g.rules? items = some rules) : ∀ r ∈ rules, g.Gives r.lines := by
  intro r hr
  rcases rules?_eq_some h with hlines | ⟨hempty, hkey⟩
  · exact .inl (hlines ▸ List.mem_map_of_mem hr)
  · exact .inr ⟨hempty, hkey r hr⟩

theorem RuleGroup.apart_of_rules? {g : RuleGroup} {items : List Yaml.Value} {rules : List Rule}
    (h : g.rules? items = some rules) (hspans : g.spans.Pairwise LineRange.Before) :
    rules.Pairwise fun a b => Apart [g] a.lines b.lines := by
  rcases rules?_eq_some h with hlines | ⟨hempty, hkey⟩
  · have hblocks : (rules.map Rule.lines).Pairwise LineRange.Before := by
      rw [hlines]
      exact (List.pairwise_cons.mp hspans).2
    exact (List.pairwise_map.mp hblocks).imp .inl
  · refine List.Pairwise.imp_of_mem ?_ (List.pairwise_of_forall fun _ _ => trivial)
    intro a b ha hb _
    exact .inr ⟨g, by simp, hempty, hkey a ha, hkey b hb⟩

/-! ## The rules of a text -/

/-- The rules of a text have lines that the scan gives them, and the lines of two are apart. -/
structure Located (gs : List RuleGroup) (rules : List Rule) : Prop where
  given : ∀ r ∈ rules, ∃ g ∈ gs, g.Gives r.lines
  apart : rules.Pairwise fun a b => Apart gs a.lines b.lines

theorem Located.nil (gs : List RuleGroup) : Located gs [] :=
  ⟨by simp, .nil⟩

/-- The rules of a key come before those of the later keys. -/
theorem Located.append {g : RuleGroup} {gs : List RuleGroup} {items : List Yaml.Value}
    {rules rest : List Rule} (hspans : (spansOf (g :: gs)).Pairwise LineRange.Before)
    (hg : g.rules? items = some rules) (hrest : Located gs rest) :
    Located (g :: gs) (rules ++ rest) := by
  rw [spansOf, List.flatMap_cons, List.pairwise_append] at hspans
  obtain ⟨hspans, -, hcross⟩ := hspans
  constructor
  · intro r hr
    rcases List.mem_append.mp hr with hr | hr
    · exact ⟨g, by simp, g.gives_of_rules? hg r hr⟩
    · obtain ⟨h, hh, hgives⟩ := hrest.given r hr
      exact ⟨h, List.mem_cons_of_mem _ hh, hgives⟩
  · refine List.pairwise_append.mpr ⟨?_, ?_, ?_⟩
    · exact (g.apart_of_rules? hg hspans).imp fun h => h.mono (by simp)
    · exact hrest.apart.imp fun h => h.mono fun _ => List.mem_cons_of_mem _
    · intro a ha b hb
      obtain ⟨h, hh, hgives⟩ := hrest.given b hb
      refine .inl (hcross _ (g.gives_of_rules? hg a ha).mem_spans _ ?_)
      exact List.mem_flatMap.mpr ⟨h, hh, hgives.mem_spans⟩

theorem located_of_locate {gs : List RuleGroup} {lists : List (List Yaml.Value)}
    {rules : List Rule} (hspans : (spansOf gs).Pairwise LineRange.Before)
    (h : locate gs lists = some rules) : Located gs rules := by
  induction gs generalizing lists rules with
  | nil =>
    cases lists with
    | nil =>
      rw [← Option.some.inj h]
      exact .nil _
    | cons => cases h
  | cons g gs ih =>
    cases lists with
    | nil => cases h
    | cons items lists =>
      simp only [locate, Option.bind_eq_bind, Option.bind_eq_some_iff, Option.pure_def,
        Option.some.injEq] at h
      obtain ⟨front, hfront, rest, hrest, rfl⟩ := h
      refine .append hspans hfront (ih ?_ hrest)
      rw [spansOf, List.flatMap_cons] at hspans
      exact hspans.sublist (List.sublist_append_right _ _)

/-! ## Items on their own -/

theorem salvageItem?_eq_some {reader : YamlReader} {s : Scanned} {b : RuleBlock} {r : Rule}
    (h : salvageItem? reader s b = some (some r)) : r.lines = b.lines := by
  simp only [salvageItem?, Option.bind_eq_bind, Option.bind_eq_some_iff, Option.pure_def,
    Option.some.injEq, Option.map_eq_some_iff] at h
  obtain ⟨text, -, body, -, rfl⟩ := h
  rfl

/-- What is found comes from some of the elements, one by one, and from all that give anything. -/
theorem exists_sublist_of_mapM {α β : Type} {f : α → Option (Option β)} {xs : List α}
    {found : List (Option β)} (h : xs.mapM f = some found) : ∃ kept, kept.Sublist xs ∧
      List.Forall₂ (fun y x => f x = some (some y)) (found.filterMap id) kept ∧
      ∀ x ∈ xs, ∀ y, f x = some (some y) → x ∈ kept := by
  induction xs generalizing found with
  | nil =>
    obtain rfl : [] = found := Option.some.inj h
    exact ⟨[], .slnil, .nil, by simp⟩
  | cons x xs ih =>
    simp only [List.mapM_cons, Option.bind_eq_bind, Option.bind_eq_some_iff, Option.pure_def,
      Option.some.injEq] at h
    obtain ⟨y?, hy, rest, hrest, rfl⟩ := h
    obtain ⟨kept, hsub, hkept, hall⟩ := ih hrest
    cases y? with
    | none =>
      refine ⟨kept, hsub.cons x, hkept, List.forall_mem_cons.mpr ⟨fun y hxy => ?_, hall⟩⟩
      rw [hy] at hxy
      cases hxy
    | some y =>
      refine ⟨x :: kept, hsub.cons_cons x, .cons hy hkept, List.forall_mem_cons.mpr ?_⟩
      exact ⟨fun _ _ => List.mem_cons_self, fun x' hx' y' hy' =>
        List.mem_cons_of_mem x (hall x' hx' y' hy')⟩

theorem map_lines_of_forall₂ {reader : YamlReader} {s : Scanned} {rules : List Rule}
    {blocks : List RuleBlock}
    (h : List.Forall₂ (fun r b => salvageItem? reader s b = some (some r)) rules blocks) :
    rules.map Rule.lines = blocks.map RuleBlock.lines := by
  rw [← List.forall₂_eq_eq_eq, List.forall₂_map_left_iff, List.forall₂_map_right_iff]
  exact h.imp fun r b hr => salvageItem?_eq_some hr

/-- The items that can be read on their own keep their lines and their order. -/
theorem sublist_of_mapM_salvageItem? {reader : YamlReader} {s : Scanned} {blocks : List RuleBlock}
    {found : List (Option Rule)} (h : blocks.mapM (salvageItem? reader s) = some found) :
    ((found.filterMap id).map Rule.lines).Sublist (blocks.map RuleBlock.lines) := by
  obtain ⟨kept, hsub, hkept, -⟩ := exists_sublist_of_mapM h
  rw [map_lines_of_forall₂ hkept]
  exact hsub.map RuleBlock.lines

/-- The lines of all items are spans. -/
theorem sublist_spansOf (gs : List RuleGroup) :
    ((gs.flatMap RuleGroup.blocks).map RuleBlock.lines).Sublist (spansOf gs) := by
  induction gs with
  | nil => exact .slnil
  | cons g gs ih =>
    rw [spansOf, List.flatMap_cons, List.flatMap_cons, List.map_append]
    exact (List.sublist_cons_self _ _).append ih

theorem located_of_salvage? {reader : YamlReader} {s : Scanned} {rules : List Rule}
    (hspans : (spansOf s.groups).Pairwise LineRange.Before)
    (h : salvage? reader s = some rules) : Located s.groups rules := by
  simp only [salvage?, Option.bind_eq_bind, Option.bind_eq_some_iff, Option.pure_def,
    Option.some.injEq] at h
  obtain ⟨found, hfound, rfl⟩ := h
  have hsub := sublist_of_mapM_salvageItem? hfound
  constructor
  · intro r hr
    have := hsub.subset (List.mem_map_of_mem hr)
    obtain ⟨b, hb, hlines⟩ := List.mem_map.mp this
    obtain ⟨g, hg, hbg⟩ := List.mem_flatMap.mp hb
    exact ⟨g, hg, .inl (List.mem_map.mpr ⟨b, hbg, hlines⟩)⟩
  · exact (List.pairwise_map.mp (hspans.sublist (hsub.trans (sublist_spansOf _)))).imp .inl

/-! ## The rules of a file -/

/-- The groups of a text are found with their spans apart. -/
theorem scan_spaced (text : List Char) :
    Spaced 1 (1 + (lines text).length) (spansOf (scan text).groups) :=
  groups_spaced (lines text) (scalarMarks (lines text))

theorem located_of_rulesOfText {reader : YamlReader} {mode : ParseMode} {text : List Char}
    {rules : List Rule} (h : rulesOfText reader mode text = .ok rules) :
    Located (scan text).groups rules := by
  have hspans := (scan_spaced text).ascending
  unfold rulesOfText at h
  split at h
  · rename_i read hread
    obtain rfl := Except.ok.inj h
    unfold readRules at hread
    split at hread
    · cases hread
    · split at hread
      · rename_i hlocate
        obtain rfl := Except.ok.inj hread
        exact located_of_locate hspans hlocate
      · cases hread
  · cases h
  · split at h
    · rename_i hsalvage
      obtain rfl := Except.ok.inj h
      exact located_of_salvage? hspans hsalvage
    · cases h

/-- The groups of a file. Bytes that are no text have none. -/
def groupsOfBytes (content : List UInt8) : List RuleGroup :=
  match Utf8.decode content with
  | .ok text => (scan text).groups
  | .error _ => []

theorem groupsOfBytes_spaced (content : List UInt8) :
    Spaced 1 (1 + LineSet.lineCount content) (spansOf (groupsOfBytes content)) := by
  unfold groupsOfBytes
  split
  · rename_i text hdecode
    rw [← length_lines_of_decode hdecode]
    exact scan_spaced text
  · exact .nil _ _

theorem located_of_rulesOfBytes {reader : YamlReader} {mode : ParseMode} {content : List UInt8}
    {rules : List Rule} (h : rulesOfBytes reader mode content = .ok rules) :
    Located (groupsOfBytes content) rules := by
  unfold rulesOfBytes at h
  unfold groupsOfBytes
  split at h
  · rename_i text hdecode
    rw [hdecode]
    exact located_of_rulesOfText h
  · cases h
  · obtain rfl := Except.ok.inj h
    exact .nil _

theorem parseWith_eq_ok {reader : YamlReader} {sourcePath shownPath : String}
    {content : List UInt8} {mode : ParseMode} {entries : List Entry}
    (h : parseWith reader sourcePath shownPath content mode = .ok entries) :
    ∃ rules, rulesOfBytes reader mode content = .ok rules ∧
      entries = rules.map (Entry.ofRule sourcePath shownPath) := by
  unfold parseWith at h
  split at h
  · rename_i rules hrules
    exact ⟨rules, hrules, (Except.ok.inj h).symm⟩
  · cases h
  · cases h

/-- The lines of a rule of a file are lines of the file. -/
theorem mem_bounds_of_rulesOfBytes {reader : YamlReader} {mode : ParseMode}
    {content : List UInt8} {rules : List Rule} (h : rulesOfBytes reader mode content = .ok rules)
    {r : Rule} (hr : r ∈ rules) :
    1 ≤ r.lines.first ∧ r.lines.last ≤ LineSet.lineCount content := by
  obtain ⟨g, hg, hgives⟩ := (located_of_rulesOfBytes h).given r hr
  have := (groupsOfBytes_spaced content).bounds r.lines
    (List.mem_flatMap.mpr ⟨g, hg, hgives.mem_spans⟩)
  omega

/-- The ranges of the items of a file that are located line by line. -/
def itemRanges (content : List UInt8) : List LineRange :=
  (groupsOfBytes content).flatMap fun g => g.blocks.map RuleBlock.lines

/-- The lines of the keys for rules whose items are not located line by line. -/
def bareKeyLines (content : List UInt8) : List Nat :=
  ((groupsOfBytes content).filter fun g => g.blocks.isEmpty).map RuleGroup.keyLine

/-- The spans of two groups are apart, in one order or the other. -/
def Separate (g h : RuleGroup) : Prop :=
  ∀ r ∈ g.spans, ∀ s ∈ h.spans, r.Before s ∨ s.Before r

instance : Std.Symm Separate where
  symm _ _ h s hs r hr := (h r hr s hs).symm

theorem groupsOfBytes_separate {content : List UInt8} {g h : RuleGroup}
    (hg : g ∈ groupsOfBytes content) (hh : h ∈ groupsOfBytes content) (hne : g ≠ h) :
    Separate g h := by
  have hpairs := (List.pairwise_flatMap.mp (groupsOfBytes_spaced content).ascending).2
  have hseparate : (groupsOfBytes content).Pairwise Separate :=
    hpairs.imp fun hgh r hr s hs => .inl (hgh r hr s hs)
  exact hseparate.forall hg hh hne

/-- The line of a key without items is no line of an item. -/
theorem single_not_mem_itemRanges {content : List UInt8} {g : RuleGroup}
    (hg : g ∈ groupsOfBytes content) (hempty : g.blocks = []) :
    LineRange.single g.keyLine ∉ itemRanges content := by
  intro hmem
  obtain ⟨h, hh, hblock⟩ := List.mem_flatMap.mp hmem
  have hne : g ≠ h := by
    rintro rfl
    simp [hempty] at hblock
  have hbefore := groupsOfBytes_separate hg hh hne _ List.mem_cons_self _
    (List.mem_cons_of_mem _ hblock)
  rcases hbefore with hbefore | hbefore <;> exact Nat.lt_irrefl _ hbefore

/-- The ranges of the entries of a file are lines of the file and apart from each other. -/
structure RangesApart (content : List UInt8) (entries : List Entry) : Prop where
  /-- A range lies within the lines that are counted, and an entry reports all lines of its own. -/
  bounds : ∀ e ∈ entries, 1 ≤ e.rule.lines.first ∧ e.rule.lines.first ≤ e.rule.lines.last ∧
    e.rule.lines.last ≤ (LineSet.linesOf content).length ∧
    e.modifiedLines = List.range' e.rule.lines.first (e.rule.lines.last + 1 - e.rule.lines.first)
  /-- Of two entries the earlier one comes first, unless both stand on the line of one key whose
  items are not located line by line. -/
  apart : entries.Pairwise fun e f => e.rule.lines.last < f.rule.lines.first ∨
    ∃ line ∈ bareKeyLines content, e.rule.lines = .single line ∧ f.rule.lines = .single line
  /-- The entries that are located line by line share no line with others and come in order. -/
  items : entries.Pairwise fun e f =>
    e.rule.lines ∈ itemRanges content ∨ f.rule.lines ∈ itemRanges content →
      e.rule.lines.last < f.rule.lines.first

/-- **The rules of a file have lines of the file, apart from each other**, in both modes and with
any reader of YAML. -/
theorem parseWith_rangesApart {reader : YamlReader} {sourcePath shownPath : String}
    {content : List UInt8} {mode : ParseMode} {entries : List Entry}
    (h : parseWith reader sourcePath shownPath content mode = .ok entries) :
    RangesApart content entries := by
  obtain ⟨rules, hrules, rfl⟩ := parseWith_eq_ok h
  have happart := (located_of_rulesOfBytes hrules).apart
  constructor
  · intro e he
    obtain ⟨r, hr, rfl⟩ := List.mem_map.mp he
    obtain ⟨hfirst, hlast⟩ := mem_bounds_of_rulesOfBytes hrules hr
    refine ⟨hfirst, r.lines.first_le_last, ?_, rfl⟩
    rw [LineSet.linesOf, List.length_range']
    exact hlast
  · refine List.pairwise_map.mpr (happart.imp ?_)
    rintro a b (hbefore | ⟨g, hg, hempty, ha, hb⟩)
    · exact .inl hbefore
    · refine .inr ⟨g.keyLine, List.mem_map_of_mem ?_, ha, hb⟩
      exact List.mem_filter.mpr ⟨hg, by simp [hempty]⟩
  · refine List.pairwise_map.mpr (happart.imp ?_)
    rintro a b (hbefore | ⟨g, hg, hempty, ha, hb⟩) hitem
    · exact hbefore
    · have hnot := single_not_mem_itemRanges hg hempty
      rw [← ha] at hnot
      rcases hitem with hitem | hitem
      · exact absurd hitem hnot
      · exact absurd ((ha.trans hb.symm) ▸ hitem) hnot

/-- A file with two documents: a key with its items on one line, and a key with an item below. -/
def flowThenBlock : List UInt8 :=
  Utf8.encode "rules: [x, y]\n---\nrules:\n- z\n".toList

/-- The entries of that file. -/
def flowThenBlockEntries : List Entry :=
  [.ofRule "a" "a" (.ofBody (.single 1) (.string "x")),
    .ofRule "a" "a" (.ofBody (.single 1) (.string "y")),
    .ofRule "a" "a" (.ofBody (.single 4) (.string "z"))]

theorem rangesApart_flowThenBlock :
    parse "a" "a" flowThenBlock .strict = .ok flowThenBlockEntries ∧
      RangesApart flowThenBlock flowThenBlockEntries := by
  have h : parse "a" "a" flowThenBlock .strict = .ok flowThenBlockEntries := by cbv
  exact ⟨h, parseWith_rangesApart h⟩

end RuleDelta.RuleFile

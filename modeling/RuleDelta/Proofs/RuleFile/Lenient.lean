import RuleDelta.Proofs.RuleFile.Range
import RuleDelta.Proofs.RuleFile.Salvage

/-!
# What a lenient reading adds

A lenient reading returns what a strict one returns. Where a strict reading refuses a text, a
lenient one returns the items that can be read on their own, each with its own lines and in the
order of the text. It refuses nothing.

* `RuleParser.Extends` says that the lenient readings of a parser extend its strict ones, and
  `extends_parseWith` that those of this library do;
* `Salvaged` says which entries stand for a text that is refused, and `salvaged_of_lenient` that a
  lenient reading returns these;
* `returns_or_breaks` says that a lenient reading returns, unless an item splits.
-/

namespace RuleDelta

/-- A lenient reading returns what a strict one returns. -/
def RuleParser.Extends (parser : RuleParser) : Prop :=
  ∀ sourcePath shownPath content entries,
    parser sourcePath shownPath content .strict = .ok entries →
      parser sourcePath shownPath content .lenient = .ok entries

namespace RuleFile

open Text

/-! ## Contents that are read strictly -/

variable {reader : YamlReader} {sourcePath shownPath : String} {content : List UInt8}

theorem rulesOfText_lenient {text : List Char} {rules : List Rule}
    (h : rulesOfText reader .strict text = .ok rules) :
    rulesOfText reader .lenient text = .ok rules := by
  unfold rulesOfText at h ⊢
  cases hread : readRules reader text with
  | ok found => simpa only [hread] using h
  | error problem => simp [hread] at h

theorem rulesOfBytes_lenient {rules : List Rule}
    (h : rulesOfBytes reader .strict content = .ok rules) :
    rulesOfBytes reader .lenient content = .ok rules := by
  unfold rulesOfBytes at h ⊢
  cases hdecode : Utf8.decode content with
  | ok text =>
    simp only [hdecode] at h ⊢
    exact rulesOfText_lenient h
  | error fault => simp [hdecode] at h

/-- **A lenient reading returns what a strict one returns.** -/
theorem extends_parseWith (reader : YamlReader) : (parseWith reader).Extends := by
  intro sourcePath shownPath content entries h
  obtain ⟨rules, hrules, rfl⟩ := parseWith_eq_ok h
  unfold parseWith
  rw [rulesOfBytes_lenient hrules]

/-! ## Contents that are not -/

/-- The items of a text, in the order of its lines. -/
def itemsOf (text : List Char) : List RuleBlock :=
  (scan text).groups.flatMap RuleGroup.blocks

/-- An item of a text can be read on its own, and this is its value. -/
def RuleBlock.ReadsAs (reader : YamlReader) (text : List Char) (b : RuleBlock)
    (body : Yaml.Value) : Prop :=
  ∃ item, itemText? (scan text).lines b = some item ∧ reader.readOne item = .ok body

theorem salvageItem?_eq_some_some_iff {text : List Char} {b : RuleBlock} {r : Rule} :
    salvageItem? reader (scan text) b = some (some r) ↔
      ∃ body, b.ReadsAs reader text body ∧ r = Rule.ofBody b.lines body := by
  have hread : ∀ item body, (reader.readOne item).toOption = some body ↔
      reader.readOne item = .ok body := fun item body => by
    cases reader.readOne item <;> simp [Except.toOption]
  simp only [salvageItem?, Option.bind_eq_bind, Option.bind_eq_some_iff, Option.pure_def,
    Option.some.injEq, Option.map_eq_some_iff, hread, RuleBlock.ReadsAs]
  constructor
  · rintro ⟨item, hitem, body, hbody, rfl⟩
    exact ⟨body, ⟨item, hitem, hbody⟩, rfl⟩
  · rintro ⟨body, ⟨item, hitem, hbody⟩, rfl⟩
    exact ⟨item, hitem, body, hbody, rfl⟩

/-- These are the entries of the items of a text that can be read on their own. -/
structure Salvaged (reader : YamlReader) (sourcePath shownPath : String) (text : List Char)
    (entries : List Entry) : Prop where
  /-- Each entry comes from one item, in the order of the text, with the lines and the value of the
  item, and no item that can be read on its own is left out. -/
  items : ∃ kept, kept.Sublist (itemsOf text) ∧
    List.Forall₂ (fun e b => ∃ body, RuleBlock.ReadsAs reader text b body ∧
      e = Entry.ofRule sourcePath shownPath (Rule.ofBody b.lines body)) entries kept ∧
    ∀ b ∈ itemsOf text, ∀ body, b.ReadsAs reader text body → b ∈ kept
  /-- The lines of an entry come before those of the next one. -/
  ascending : entries.Pairwise fun e f => e.rule.lines.Before f.rule.lines

/-- The items of a text ascend without a common line. -/
theorem pairwise_lines_itemsOf (text : List Char) :
    (itemsOf text).Pairwise fun b c => b.lines.Before c.lines :=
  List.pairwise_map.mp ((scan_spaced text).ascending.sublist (sublist_spansOf _))

theorem salvaged_of_salvage? {text : List Char} {rules : List Rule}
    (h : salvage? reader (scan text) = some rules) :
    Salvaged reader sourcePath shownPath text (rules.map (Entry.ofRule sourcePath shownPath)) := by
  simp only [salvage?, Option.bind_eq_bind, Option.bind_eq_some_iff, Option.pure_def,
    Option.some.injEq] at h
  obtain ⟨found, hfound, rfl⟩ := h
  obtain ⟨kept, hsub, hkept, hall⟩ := exists_sublist_of_mapM hfound
  have hlines := map_lines_of_forall₂ hkept
  constructor
  · refine ⟨kept, hsub, ?_, fun b hb body hbody => ?_⟩
    · refine List.forall₂_map_left_iff.mpr (hkept.imp fun r b hr => ?_)
      obtain ⟨body, hbody, rfl⟩ := salvageItem?_eq_some_some_iff.mp hr
      exact ⟨body, hbody, rfl⟩
    · exact hall b hb _ (salvageItem?_eq_some_some_iff.mpr ⟨body, hbody, rfl⟩)
  · have hascending := List.pairwise_map.mpr ((pairwise_lines_itemsOf text).sublist hsub)
    rw [← hlines] at hascending
    exact List.pairwise_map.mpr (List.pairwise_map.mp hascending)

/-- **What a lenient reading returns for a text that a strict one refuses** are the items that can
be read on their own. -/
theorem salvaged_of_lenient {text : List Char} {failure : ParseFailure} {entries : List Entry}
    (htext : Utf8.decode content = .ok text)
    (hstrict : parseWith reader sourcePath shownPath content .strict = .error failure)
    (h : parseWith reader sourcePath shownPath content .lenient = .ok entries) :
    Salvaged reader sourcePath shownPath text entries := by
  obtain ⟨rules, hrules, rfl⟩ := parseWith_eq_ok h
  unfold parseWith at hstrict
  unfold rulesOfBytes at hrules hstrict
  simp only [htext] at hrules hstrict
  unfold rulesOfText at hrules hstrict
  cases hread : readRules reader text with
  | ok found => simp [hread] at hstrict
  | error problem =>
    cases hsalvage : salvage? reader (scan text) with
    | none => simp [hread, hsalvage] at hrules
    | some found =>
      simp only [hread, hsalvage, Except.ok.injEq] at hrules
      obtain rfl := hrules
      exact salvaged_of_salvage? hsalvage

/-- **A lenient reading returns**, unless it breaks down at an item of a text that a strict one
refuses. -/
theorem returns_or_breaks (reader : YamlReader) (sourcePath shownPath : String)
    (content : List UInt8) :
    (∃ entries, parseWith reader sourcePath shownPath content .lenient = .ok entries) ∨
      parseWith reader sourcePath shownPath content .lenient = .error .broken ∧
        ∃ text, Utf8.decode content = .ok text ∧
          (∃ failure, parseWith reader sourcePath shownPath content .strict = .error failure) ∧
          ∃ b ∈ itemsOf text, b.Splits (scan text) := by
  unfold parseWith rulesOfBytes
  cases hdecode : Utf8.decode content with
  | error fault => exact .inl ⟨[], rfl⟩
  | ok text =>
    simp only [Except.ok.injEq, exists_eq_left']
    unfold rulesOfText
    cases hread : readRules reader text with
    | ok rules => exact .inl ⟨_, rfl⟩
    | error problem =>
      cases hsalvage : salvage? reader (scan text) with
      | some rules => exact .inl ⟨_, rfl⟩
      | none =>
        obtain ⟨g, hg, b, hb, hsplit⟩ := salvage?_eq_none_iff.mp hsalvage
        exact .inr ⟨rfl, ⟨_, rfl⟩, b, List.mem_flatMap.mpr ⟨g, hg, hb⟩, hsplit⟩

/-- A lenient reading refuses nothing. -/
theorem lenient_ne_refused (reader : YamlReader) (sourcePath shownPath : String)
    (content : List UInt8) (e : ParseError) :
    parseWith reader sourcePath shownPath content .lenient ≠ .error (.refused e) := by
  intro h
  rcases returns_or_breaks reader sourcePath shownPath content with ⟨_, hok⟩ | ⟨hbroken, -⟩
  · rw [hok] at h
    cases h
  · rw [hbroken] at h
    cases h

end RuleFile

end RuleDelta

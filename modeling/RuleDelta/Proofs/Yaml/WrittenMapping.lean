import RuleDelta.Proofs.Yaml.LiteralScalar
import RuleDelta.Proofs.Yaml.QuotedScalar

/-!
# Written mappings

A mapping is written with one key at the start of a line after the other, each with a text or a list
of texts as its value.

* `WrittenEntry` is a key with its value as it is written;
* `fits_plain_of_isKeyChar` is for words that need no quotes;
* `WrittenEntry.all_isAllowed_lines` says that a reader takes every character of an entry.
-/

namespace RuleDelta.Yaml

/-! ## Written entries -/

/-- A value as it is written: a text, or a list of texts below its key. -/
inductive WrittenValue
  | scalar (text : Scalar)
  | list (items : List Scalar)

/-- A letter, a digit or an underscore. -/
def isKeyChar (c : Char) : Bool :=
  c.isAlphanum || c == '_'

/-- A key and its value as they are written. -/
structure WrittenEntry where
  name : List Char
  value : WrittenValue
  name_ne_nil : name ≠ []
  all_isKeyChar : name.all isKeyChar = true
  length_name_le : name.length ≤ 1024

/-- The token of a scalar. -/
def Scalar.symbol (x : Scalar) : Symbol :=
  .scalar x.text x.style.scalarStyle

theorem Scalar.length_lines_pos (x : Scalar) : 0 < x.lines.length := by
  obtain ⟨text, style, hfits⟩ := x
  cases style <;> simp [lines, WrittenStyle.lines]

namespace WrittenValue

/-- What stands behind the colon, up to the end of the last line. -/
def lines : WrittenValue → List Char
  | scalar x => ' ' :: x.lines
  | list [] => [' ', '[', ']', '\n']
  | list items => '\n' :: items.flatMap fun x => '-' :: ' ' :: x.lines

/-- The tokens of a value. -/
def symbols : WrittenValue → List Symbol
  | scalar x => [x.symbol]
  | list [] => [.flowSequenceStart, .flowSequenceEnd]
  | list items => items.flatMap fun x => [.blockEntry, x.symbol]

end WrittenValue

namespace WrittenEntry

/-- The written form of an entry. -/
def lines (e : WrittenEntry) : List Char :=
  e.name ++ ':' :: e.value.lines

/-- The tokens of an entry. -/
def symbols (e : WrittenEntry) : List Symbol :=
  .key :: .scalar e.name .plain :: .value :: e.value.symbols

theorem isKeyChar_of_mem (e : WrittenEntry) : ∀ c ∈ e.name, isKeyChar c = true :=
  List.all_eq_true.mp e.all_isKeyChar

end WrittenEntry

/-! ## Characters of keys -/

section

variable {c : Char}

theorem endsWord_of_isVisible (h : isVisible c = true) : endsWord (some c) = false := by
  simp [endsWord, isSpace_of_isVisible h, isBreak_of_isVisible h]

theorem isNameChar_of_isKeyChar (h : isKeyChar c = true) : isNameChar c = true := by
  simp only [isKeyChar, Bool.or_eq_true] at h
  rcases h with h | h <;> simp [isNameChar, h]

theorem isPrintable_of_isKeyChar (h : isKeyChar c = true) : isPrintable c = true := by
  have hbounds : 0x20 ≤ c.toNat ∧ c.toNat ≤ 0x7E := by
    have hclass : ((decide ('A'.val ≤ c.val ∧ c.val ≤ 'Z'.val) ||
        (decide ('a'.val ≤ c.val) && decide (c.val ≤ 'z'.val))) ||
        (decide ('0'.val ≤ c.val) && decide (c.val ≤ '9'.val)) || c == '_') = true := h
    simp only [Bool.or_eq_true, Bool.and_eq_true, decide_eq_true_eq, UInt32.le_iff_toNat_le,
      beq_iff_eq] at hclass
    change ((((65 ≤ c.toNat ∧ c.toNat ≤ 90) ∨ (97 ≤ c.toNat ∧ c.toNat ≤ 122)) ∨
      (48 ≤ c.toNat ∧ c.toNat ≤ 57)) ∨ c = '_') at hclass
    rcases hclass with ((h | h) | h) | rfl
    · omega
    · omega
    · omega
    · decide
  simp [isPrintable, hbounds]

theorem ne_of_isKeyChar (h : isKeyChar c = true) {d : Char} (hd : isKeyChar d = false) : c ≠ d := by
  rintro rfl
  rw [h] at hd
  cases hd

/-- A key has no meaning of its own at its start. -/
theorem opensWithIndicator_of_isKeyChar (h : isKeyChar c = true) (rest : List Char) :
    opensWithIndicator (c :: rest) = false := by
  have hnone : ∀ {indicators : List Char}, indicators.any isKeyChar = false →
      indicators.contains c = false := by
    intro indicators hany
    rw [List.contains_eq_mem, decide_eq_false_iff_not]
    exact fun hmem => List.any_eq_false.mp hany c hmem h
  rw [opensWithIndicator, hnone (by decide), hnone (by decide)]
  rfl

end

/-- A word of a key can stand without quotes. -/
theorem fits_plain_of_isKeyChar {s : List Char} (hne : s ≠ []) (h : ∀ c ∈ s, isKeyChar c = true) :
    WrittenStyle.plain.Fits s := by
  have hvisible : ∀ c ∈ s, isVisible c = true := fun c hc =>
    isVisible_of_isNameChar (isNameChar_of_isKeyChar (h c hc))
  have hshown : ∀ c ∈ s, isPrintable c = true := fun c hc => isPrintable_of_isKeyChar (h c hc)
  have hbreak : ∀ c ∈ s, isBreak c = false := fun c hc => isBreak_of_isVisible (hvisible c hc)
  have hne_of : ∀ {d : Char}, isKeyChar d = false → ∀ c ∈ s, (c == d) = false := by
    intro d hd c hc
    simpa using ne_of_isKeyChar (h c hc) hd
  have hword : ∀ c ∈ s, endsWord (some c) = false := fun c hc =>
    endsWord_of_isVisible (hvisible c hc)
  refine ⟨hne, ?_⟩
  have hquotes : fitsQuotes s = true := by
    simp [fitsQuotes, hasNeighbours_of_forall _ hbreak,
      hasNeighbours_of_forall _ (hne_of (d := ' ') (by decide))]
    exact hshown
  have hcolon : (s.getLast? == some ':') = false := by
    cases hlast : s.getLast? with
    | none => rfl
    | some c => exact hne_of (by decide) c (List.mem_of_getLast? hlast)
  have hindicator : holdsIndicator s = false := by
    simp [holdsIndicator, hasNeighbours_of_forall _ (hne_of (d := ':') (by decide)), hcolon,
      hasNeighbours_of_forall _ hword]
  have hbreaks : s.any isBreak = false := by simpa using hbreak
  have hopens : opensWithIndicator s = false ∧ opensWithMarker s = false := by
    cases s with
    | nil => exact absurd rfl hne
    | cons c s =>
      have hc := h c (List.mem_cons_self ..)
      have hdash : c ≠ '-' := ne_of_isKeyChar hc (by decide)
      have hdot : c ≠ '.' := ne_of_isKeyChar hc (by decide)
      exact ⟨opensWithIndicator_of_isKeyChar hc s, by simp [opensWithMarker, hdash, hdot]⟩
  simp [fitsBare, hquotes, hbreaks, hasAtEnd_of_forall (hne_of (d := ' ') (by decide)),
    hopens, hindicator]

/-! ## Characters of written texts -/

theorem all_isAllowed_indentation (lineStart : Bool) :
    (if lineStart then indentation else []).all isAllowed = true := by
  cases lineStart <;> decide

theorem all_isAllowed_singleQuotedText {s : List Char} (h : s.all isAllowed = true)
    (lineStart : Bool) : (singleQuotedText lineStart s).all isAllowed = true := by
  induction s generalizing lineStart with
  | nil => exact all_isAllowed_indentation lineStart
  | cons d s ih =>
    rw [List.all_cons, Bool.and_eq_true] at h
    obtain ⟨hd, hs⟩ := h
    have hchar : (if d = '\'' then ['\'', '\''] else [d]).all isAllowed = true := by
      split
      · decide
      · simpa using hd
    rw [singleQuotedText]
    split
    · rw [List.all_cons, hd, ih hs, Bool.and_self]
    · rw [List.all_append, List.all_append, all_isAllowed_indentation, hchar, ih hs]
      rfl

theorem all_isAllowed_literalLines {s : List Char} (h : s.all isAllowed = true)
    (lineStart : Bool) : (literalLines lineStart s).all isAllowed = true := by
  induction s generalizing lineStart with
  | nil => cases lineStart <;> decide
  | cons d s ih =>
    rw [List.all_cons, Bool.and_eq_true] at h
    obtain ⟨hd, hs⟩ := h
    have hindent : indentation.all isAllowed = true := by decide
    rw [literalLines]
    split
    · rw [List.all_cons, hd, ih hs, Bool.and_self]
    · split
      · rw [List.all_append, List.all_cons, hindent, hd, ih hs]
        rfl
      · rw [List.all_cons, hd, ih hs, Bool.and_self]

theorem all_isAllowed_doubleQuotedText (s : List Char) :
    (doubleQuotedText s).all isAllowed = true := by
  rw [doubleQuotedText, List.all_flatMap, List.all_eq_true]
  intro d _
  obtain ⟨tail, htail, hescape⟩ := readEscape_escaped d
  split
  · rw [htail, List.all_cons, List.all_eq_true.mpr hescape.allowed]
    rfl
  · rename_i hplain
    simp only [Bool.or_eq_true, Bool.not_eq_true', not_or, Bool.not_eq_false] at hplain
    simpa using isAllowed_of_isPrintable hplain.1.1.1

/-- A reader takes all characters of a written text. -/
theorem Scalar.all_isAllowed_lines (x : Scalar) : x.lines.all isAllowed = true := by
  obtain ⟨text, style, hfits⟩ := x
  have hshown : text.all isPrintable = true → text.all isAllowed = true := fun h =>
    List.all_eq_true.mpr fun c hc => isAllowed_of_isPrintable (List.all_eq_true.mp h c hc)
  rw [lines]
  cases style with
  | plain =>
    have hbare := hfits.2
    simp only [fitsBare, fitsQuotes, Bool.and_eq_true] at hbare
    rw [WrittenStyle.lines, List.all_append, hshown hbare.1.1.1.1.1.1.1]
    rfl
  | singleQuoted =>
    have hquotes := hfits.1
    simp only [fitsQuotes, Bool.and_eq_true] at hquotes
    rw [WrittenStyle.lines, List.all_append, List.all_cons,
      all_isAllowed_singleQuotedText (hshown hquotes.1.1)]
    rfl
  | doubleQuoted =>
    rw [WrittenStyle.lines, List.all_append, List.all_cons, all_isAllowed_doubleQuotedText]
    rfl
  | literal =>
    have hlines := hfits.2
    simp only [fitsLines, Bool.and_eq_true] at hlines
    have hhints : (literalHints text).all isAllowed = true := by
      rw [literalHints_eq]
      generalize (hintedIndent text).isSome = given
      cases given <;> cases hintedChomping text <;> decide
    rw [WrittenStyle.lines, List.all_append, List.all_cons, List.all_cons, hhints,
      all_isAllowed_literalLines (hshown hlines.1.1)]
    rfl

theorem WrittenEntry.all_isAllowed_lines (e : WrittenEntry) : e.lines.all isAllowed = true := by
  have hname : e.name.all isAllowed = true := List.all_eq_true.mpr fun c hc =>
    isAllowed_of_isPrintable (isPrintable_of_isKeyChar (e.isKeyChar_of_mem c hc))
  have hitem : ∀ x : Scalar, ('-' :: ' ' :: x.lines).all isAllowed = true := by
    intro x
    rw [List.all_cons, List.all_cons, x.all_isAllowed_lines]
    rfl
  have hvalue : e.value.lines.all isAllowed = true := by
    cases e.value with
    | scalar x =>
      rw [WrittenValue.lines, List.all_cons, x.all_isAllowed_lines]
      rfl
    | list items =>
      cases items with
      | nil => rfl
      | cons x items =>
        rw [WrittenValue.lines, List.all_cons, List.all_flatMap,
          List.all_eq_true.mpr fun x _ => hitem x]
        · rfl
        · exact nofun
  rw [lines, List.all_append, List.all_cons, hname, hvalue]
  rfl

end RuleDelta.Yaml

import RuleDelta.Yaml.Token
import RuleDelta.Yaml.WrittenScalar

/-!
# Styles and the texts that fit them

Every style is for certain texts, and a text is written in a style that it fits.

* `WrittenStyle.Fits` says which texts a style is for, and `fits_choose` that the chosen style is
  one for the text;
* `Scalar` is a text with such a style, and `Scalar.lines` its written form.
-/

namespace RuleDelta.Yaml

/-! ## Characters -/

/-- Neither a blank nor the end of a line. -/
def isVisible (c : Char) : Bool :=
  !isSpace c && !isBreak c

section

variable {c : Char}

theorem isSpace_of_isVisible (h : isVisible c = true) : isSpace c = false := by
  simp [isVisible] at h
  exact h.1

theorem isBreak_of_isVisible (h : isVisible c = true) : isBreak c = false := by
  simp [isVisible] at h
  exact h.2

theorem ne_blank_of_isVisible (h : isVisible c = true) : c ≠ ' ' ∧ c ≠ '\t' := by
  have := isSpace_of_isVisible h
  simpa [isSpace] using this

theorem isAllowed_of_isPrintable (h : isPrintable c = true) : isAllowed c = true := by
  have hvalid : c.toNat < 0xD800 ∨ 0xDFFF < c.toNat ∧ c.toNat < 0x110000 := c.valid
  simp [isPrintable, isAllowed] at h ⊢
  omega

theorem isSplitReturn_of_isPrintable (h : isPrintable c = true) (rest : List Char) :
    isSplitReturn c rest = false := by
  have hne : c ≠ '\r' := by
    rintro rfl
    exact absurd h (by decide)
  simp [isSplitReturn, hne]

theorem isSplitReturn_of_isBreak (h : isBreak c = false) (rest : List Char) :
    isSplitReturn c rest = false := by
  have hne : c ≠ '\r' := by
    rintro rfl
    exact absurd h (by decide)
  simp [isSplitReturn, hne]

/-- A line break that shows as it is reads as itself. -/
theorem breakText_of_isPrintable (h : isPrintable c = true) (hbreak : isBreak c = true) :
    breakText c = c := by
  simp only [isBreak, Bool.or_eq_true, beq_iff_eq] at hbreak
  rcases hbreak with (((rfl | rfl) | rfl) | rfl) | rfl
  · rfl
  · exact absurd h (by decide)
  · exact absurd h (by decide)
  · rfl
  · rfl

/-- A character that shows is a space, the end of a line, or visible. -/
theorem printable_cases (h : isPrintable c = true) :
    c = ' ' ∨ isBreak c = true ∨ isVisible c = true := by
  by_cases hbreak : isBreak c = true
  · exact .inr (.inl hbreak)
  · by_cases hspace : isSpace c = true
    · simp only [isSpace, Bool.or_eq_true, beq_iff_eq] at hspace
      rcases hspace with rfl | rfl
      · exact .inl rfl
      · exact absurd h (by decide)
    · simp [isVisible, hbreak, hspace]

/-- Inside of a line a character that shows is a space or visible. -/
theorem space_or_isVisible (h : isPrintable c = true) (hbreak : isBreak c = false) :
    c = ' ' ∨ isVisible c = true := by
  rcases printable_cases h with hspace | hc | hvisible
  · exact .inl hspace
  · rw [hbreak] at hc
    cases hc
  · exact .inr hvisible

end

/-! ## Neighbours and ends -/

theorem hasNeighbours_cons_cons (p q : Char → Bool) (c d : Char) (s : List Char) :
    hasNeighbours p q (c :: d :: s) = (p c && q d || hasNeighbours p q (d :: s)) := by
  simp [hasNeighbours]

theorem hasNeighbours_tail {p q : Char → Bool} {c : Char} {s : List Char}
    (h : hasNeighbours p q (c :: s) = false) : hasNeighbours p q s = false := by
  cases s with
  | nil => rfl
  | cons d s =>
    rw [hasNeighbours_cons_cons, Bool.or_eq_false_iff] at h
    exact h.2

/-- What stands behind a character of the first property does not have the second. -/
theorem not_head_of_hasNeighbours {p q : Char → Bool} {c : Char} {s : List Char}
    (h : hasNeighbours p q (c :: s) = false) (hc : p c = true) : s.head?.any q = false := by
  cases s with
  | nil => rfl
  | cons d s =>
    rw [hasNeighbours_cons_cons, Bool.or_eq_false_iff, hc, Bool.true_and] at h
    exact h.1

theorem hasNeighbours_of_forall {p : Char → Bool} (q : Char → Bool) {s : List Char}
    (h : ∀ c ∈ s, p c = false) : hasNeighbours p q s = false := by
  induction s with
  | nil => rfl
  | cons c s ih =>
    obtain ⟨hc, hs⟩ := List.forall_mem_cons.mp h
    cases s with
    | nil => rfl
    | cons d s => rw [hasNeighbours_cons_cons, hc, Bool.false_and, Bool.false_or, ih hs]

theorem hasAtEnd_of_forall {p : Char → Bool} {s : List Char} (h : ∀ c ∈ s, p c = false) :
    hasAtEnd p s = false := by
  have hhead : s.head?.any p = false := by
    cases s with
    | nil => rfl
    | cons c s => exact h c (List.mem_cons_self ..)
  have hlast : s.getLast?.any p = false := by
    cases hlast : s.getLast? with
    | none => rfl
    | some c => exact h c (List.mem_of_getLast? hlast)
  rw [hasAtEnd, hhead, hlast, Bool.or_self]

/-! ## Styles -/

namespace WrittenStyle

/-- The style that a scalar in this one is read in. -/
def scalarStyle : WrittenStyle → ScalarStyle
  | plain => .plain
  | singleQuoted => .singleQuoted
  | doubleQuoted => .doubleQuoted
  | literal => .literal

/-- The written form of a text in a style, up to the end of its last line. -/
def lines (s : List Char) : WrittenStyle → List Char
  | plain => s ++ ['\n']
  | singleQuoted => '\'' :: singleQuotedText false s ++ ['\'', '\n']
  | doubleQuoted => '"' :: doubleQuotedText s ++ ['"', '\n']
  | literal => '|' :: literalHints s ++ '\n' :: literalLines true s

/-- The texts that a style is for. -/
def Fits (s : List Char) : WrittenStyle → Prop
  | plain => s ≠ [] ∧ fitsBare s = true
  | singleQuoted => fitsQuotes s = true ∧ '\n' ∉ s
  | doubleQuoted => True
  | literal => s ≠ [] ∧ fitsLines s = true

/-- The chosen style is one for the text. -/
theorem fits_choose (s : List Char) : (choose s).Fits s := by
  unfold choose
  by_cases hfeed : s.contains '\n' = true
  · rw [if_pos hfeed]
    by_cases hlines : fitsLines s = true
    · rw [if_pos hlines]
      refine ⟨?_, hlines⟩
      rintro rfl
      cases hfeed
    · rw [if_neg hlines]
      trivial
  · rw [if_neg hfeed]
    by_cases hbare : (!readsAsOther s && fitsBare s) = true
    · rw [if_pos hbare]
      rw [Bool.and_eq_true] at hbare
      refine ⟨?_, hbare.2⟩
      rintro rfl
      exact absurd hbare.1 (by decide)
    · rw [if_neg hbare]
      by_cases hquotes : fitsQuotes s = true
      · rw [if_pos hquotes]
        exact ⟨hquotes, by simpa using hfeed⟩
      · rw [if_neg hquotes]
        trivial

end WrittenStyle

/-- A text with a style to write it in. -/
structure Scalar where
  text : List Char
  style : WrittenStyle
  fits : style.Fits text

namespace Scalar

/-- The written form, up to the end of its last line. -/
def lines (s : Scalar) : List Char :=
  s.style.lines s.text

/-- A text in the style that is chosen for it. -/
def ofText (s : List Char) : Scalar :=
  ⟨s, .choose s, WrittenStyle.fits_choose s⟩

theorem lines_ofText (s : List Char) : (ofText s).lines = scalarLines s := by
  show (WrittenStyle.choose s).lines s = scalarLines s
  unfold scalarLines
  cases WrittenStyle.choose s <;> rfl

end Scalar

end RuleDelta.Yaml

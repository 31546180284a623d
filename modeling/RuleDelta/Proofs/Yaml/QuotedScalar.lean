import Mathlib.Data.Nat.Digits.Defs
import RuleDelta.Proofs.Text.Numeral
import RuleDelta.Proofs.Yaml.PlainScalar
import RuleDelta.Yaml.QuotedScalar

/-!
# Quoted scalars are read back

Between double quotes a character stands for itself or is escaped, and every escape is read as its
character. Between single quotes a quote stands twice, and a line break with its indentation is
folded into the break alone.

* `readEscape_escaped` reads an escape;
* `readQuoted_double` and `readQuoted_single` read a quoted text from behind the opening quote.
-/

namespace RuleDelta.Yaml

open Text

/-! ## Hexadecimal digits -/

theorem digitIn?_toUpper_digitChar :
    ∀ d < 16, digitIn? 16 (Nat.digitChar d).toUpper = some d := by
  decide

theorem digitsFrom?_leadingZeros (count : Nat) (s : List Char) :
    digitsFrom? 16 0 (List.replicate count '0' ++ s) = digitsFrom? 16 0 s := by
  induction count with
  | zero => rfl
  | succ count ih => exact ih

theorem length_hexDigits {width n : Nat} (hwidth : 0 < width) (hn : n < 16 ^ width) :
    (hexDigits width n).length = width := by
  have hle := Nat.toDigits_length 16 n width hwidth hn
  simp only [hexDigits, List.length_append, List.length_replicate, List.length_map]
  omega

theorem digitsFrom?_hexDigits (width n : Nat) : digitsFrom? 16 0 (hexDigits width n) = some n := by
  rw [hexDigits, digitsFrom?_leadingZeros]
  exact digitsFrom?_map_toDigits (by decide) digitIn?_toUpper_digitChar n

/-- A digit shows as it is. -/
theorem isAllowed_of_digitValue? {c : Char} {d : Nat} (h : digitValue? c = some d) :
    isAllowed c = true := by
  have hbounds : 0x20 ≤ c.toNat ∧ c.toNat ≤ 0x7E := by
    simp only [digitValue?, Char.le_def, UInt32.le_iff_toNat_le, Char.toNat_val] at h
    split_ifs at h with hdecimal hlower hupper
    · have : 48 ≤ c.toNat ∧ c.toNat ≤ 57 := hdecimal
      omega
    · have : 97 ≤ c.toNat ∧ c.toNat ≤ 122 := hlower
      omega
    · have : 65 ≤ c.toNat ∧ c.toNat ≤ 90 := hupper
      omega
  simp [isAllowed, hbounds]

theorem isAllowed_of_digitsFrom? {base value n : Nat} {s : List Char}
    (h : digitsFrom? base value s = some n) : ∀ c ∈ s, isAllowed c = true := by
  induction s generalizing value with
  | nil => exact List.forall_mem_nil _
  | cons c s ih =>
    obtain ⟨d, hd, hs⟩ := Option.bind_eq_some_iff.mp h
    exact List.forall_mem_cons.mpr
      ⟨isAllowed_of_digitValue? (Option.filter_eq_some_iff.mp hd).1, ih hs⟩

/-! ## Escapes -/

/-- What is behind the backslash of the escape of a character. -/
structure EscapesAs (c : Char) (tail : List Char) : Prop where
  readEscape_eq : ∀ (mark : Mark) (rest : List Char),
    readEscape mark (tail ++ rest) = .ok (c, tail.length)
  /-- The backslash does not stand in front of a line break. -/
  head : tail.head?.any (fun d => !isBreak d) = true
  allowed : ∀ d ∈ tail, isAllowed d = true

theorem escapesAs_letter {c letter : Char} (h : escapeLetter? c = some letter) :
    EscapesAs c [letter] := by
  have hletter : letterEscape? letter = some c ∧ isBreak letter = false ∧
      isAllowed letter = true := by
    have hlookup : ∀ {table : List (Char × Char)}, table.lookup c = some letter →
        (∀ p ∈ table, letterEscape? p.2 = some p.1 ∧ isBreak p.2 = false ∧
          isAllowed p.2 = true) →
        letterEscape? letter = some c ∧ isBreak letter = false ∧ isAllowed letter = true := by
      intro table hfound hall
      obtain ⟨front, back, rfl, -⟩ := List.lookup_eq_some_iff.mp hfound
      exact hall (c, letter) (by simp)
    exact hlookup h (by decide)
  obtain ⟨hread, hbreak, hallowed⟩ := hletter
  exact ⟨fun _ _ => by simp [readEscape, hread], by simp [hbreak], by simpa using hallowed⟩

theorem escapesAs_code {c : Char} (letter : Char) (width : Nat)
    (hletter : letterEscape? letter = none)
    (hlength : codeLength? letter = some width) (hbreak : isBreak letter = false)
    (hallowed : isAllowed letter = true) (hpos : 0 < width) (hcode : c.toNat < 16 ^ width) :
    EscapesAs c (letter :: hexDigits width c.toNat) := by
  have hwidth : (hexDigits width c.toNat).length = width := length_hexDigits hpos hcode
  have hdigits : digits? 16 (hexDigits width c.toNat) = some c.toNat := by
    have hne : (hexDigits width c.toNat).isEmpty = false := by
      rw [List.isEmpty_eq_false_iff_exists_mem]
      exact List.exists_mem_of_length_pos (by omega)
    rw [digits?, hne, if_neg Bool.false_ne_true, digitsFrom?_hexDigits]
  refine ⟨fun mark rest => ?_, by simp [hbreak], ?_⟩
  · have hvalid : c.toNat.isValidChar := c.valid
    have htake : (hexDigits width c.toNat ++ rest).take width = hexDigits width c.toNat := by
      rw [List.take_append_of_le_length (Nat.le_of_eq hwidth.symm), List.take_of_length_le
        (Nat.le_of_eq hwidth)]
    simp [readEscape, hletter, hlength, htake, hwidth, hdigits, hvalid]
  · exact List.forall_mem_cons.mpr
      ⟨hallowed, isAllowed_of_digitsFrom? (digitsFrom?_hexDigits width c.toNat)⟩

/-- **Every escape is read as its character.** -/
theorem readEscape_escaped (c : Char) : ∃ tail, escaped c = '\\' :: tail ∧ EscapesAs c tail := by
  unfold escaped
  cases hletter : escapeLetter? c with
  | some letter => exact ⟨_, rfl, escapesAs_letter hletter⟩
  | none =>
    by_cases hbyte : c.toNat ≤ 0xFF
    · exact ⟨_, if_pos hbyte, escapesAs_code 'x' 2 rfl rfl rfl rfl (by decide) (by omega)⟩
    · by_cases hshort : c.toNat ≤ 0xFFFF
      · refine ⟨_, ?_, escapesAs_code 'u' 4 rfl rfl rfl rfl (by decide)
          (by omega)⟩
        simp only [if_neg hbyte, if_pos hshort]
      · have hvalid : c.toNat < 0xD800 ∨ 0xDFFF < c.toNat ∧ c.toNat < 0x110000 := c.valid
        refine ⟨_, ?_, escapesAs_code 'U' 8 rfl rfl rfl rfl (by decide)
          (by omega)⟩
        simp only [if_neg hbyte, if_neg hshort]

/-! ## Between quotes -/

section

variable {double : Bool} {gap : Gap} {mark : Mark} {c : Char}

/-- A blank of a line. -/
theorem quotedFrom_space (gap : Gap) (out : List Char) (mark : Mark) (rest : List Char) :
    quotedFrom double 0 gap out mark (' ' :: rest) =
      quotedFrom double 0 (gap.addBlank ' ') out (mark.advance 1) rest :=
  rfl

/-- A visible character without a meaning of its own. -/
theorem quotedFrom_visible (hc : isVisible c = true) (hcolumn : 0 < mark.column)
    (hquote : c ≠ '\'' ∨ double = true) (hdouble : c ≠ '"' ∧ c ≠ '\\' ∨ double = false)
    (gap : Gap) (out rest : List Char) :
    quotedFrom double 0 gap out mark (c :: rest) =
      quotedFrom double 0 .empty (c :: (gap.text.reverse ++ out)) (mark.advance 1) rest := by
  have hsingle : (c == '\'' && !double) = false := by
    rcases hquote with h | h <;> simp [h]
  have hclose : (c == '"' && double) = false := by
    rcases hdouble with h | h <;> simp [h]
  have hescape : (c == '\\' && double) = false := by
    rcases hdouble with h | h <;> simp [h]
  simp [quotedFrom, isSplitReturn_of_isBreak (isBreak_of_isVisible hc), isBreak_of_isVisible hc,
    isSpace_of_isVisible hc, not_atDocumentMarker hcolumn, hsingle, hclose, hescape]

theorem quotedFrom_skip (gap : Gap) (out passed rest : List Char) (mark : Mark) :
    quotedFrom double passed.length gap out mark (passed ++ rest) =
      quotedFrom double 0 gap out (mark.advance passed.length) rest := by
  induction passed generalizing mark with
  | nil => rfl
  | cons c passed ih =>
    have hskip : quotedFrom double (c :: passed).length gap out mark (c :: passed ++ rest) =
        quotedFrom double passed.length gap out (mark.advance 1) (passed ++ rest) := rfl
    rw [hskip, ih]
    simp [Mark.advance, Nat.add_assoc, Nat.add_comm 1]

end

/-! ### Double quotes -/

/-- An escape between double quotes. -/
theorem quotedFrom_escape {c : Char} {tail : List Char} (h : EscapesAs c tail) {mark : Mark}
    (hcolumn : 0 < mark.column) (gap : Gap) (out rest : List Char) :
    quotedFrom true 0 gap out mark ('\\' :: tail ++ rest) =
      quotedFrom true 0 .empty (c :: (gap.text.reverse ++ out))
        (mark.advance (tail.length + 1)) rest := by
  have hbreak : (tail ++ rest).head?.any isBreak = false := by
    have hhead := h.head
    cases tail with
    | nil => cases hhead
    | cons d tail => simpa using hhead
  have hstep : ∀ {behind : List Char}, behind.head?.any isBreak = false →
      readEscape mark behind = .ok (c, tail.length) →
      quotedFrom true 0 gap out mark ('\\' :: behind) =
        quotedFrom true tail.length .empty (c :: (gap.text.reverse ++ out)) (mark.advance 1)
          behind := by
    intro behind hbehind hread
    simp [quotedFrom, isSplitReturn, isBreak, isSpace, not_atDocumentMarker hcolumn, hbehind,
      hread]
  rw [List.cons_append, hstep hbreak (h.readEscape_eq mark rest), quotedFrom_skip]
  simp [Mark.advance, Nat.add_assoc, Nat.add_comm 1]

/-- The induction is on what is left of the text; the blanks in front of that are kept until
another character comes. -/
theorem quotedFrom_double (u b out : List Char) {mark : Mark} (hcolumn : 0 < mark.column)
    (rest : List Char) :
    ∃ mark', mark'.line = mark.line ∧
      quotedFrom true 0 (.ofBlanks b) out mark (doubleQuotedText u ++ '"' :: rest) =
        .ok ⟨out.reverse ++ b ++ u, ⟨rest, mark'⟩, false⟩ := by
  induction u generalizing b out mark with
  | nil =>
    refine ⟨mark.advance 1, rfl, ?_⟩
    simp [doubleQuotedText, quotedFrom, isSplitReturn, isBreak, isSpace,
      not_atDocumentMarker hcolumn]
  | cons c u ih =>
    have hadvance : ∀ n, 0 < (mark.advance n).column := fun n =>
      Nat.lt_of_lt_of_le hcolumn (Nat.le_add_right _ _)
    by_cases hescape : (!isPrintable c || isBreak c || c == '"' || c == '\\') = true
    · obtain ⟨tail, htail, hc⟩ := readEscape_escaped c
      have hwritten : doubleQuotedText (c :: u) = '\\' :: tail ++ doubleQuotedText u := by
        rw [← htail, doubleQuotedText, List.flatMap_cons, if_pos hescape]
        rfl
      obtain ⟨mark', hline, hread⟩ := ih [] (c :: (b.reverse ++ out)) (hadvance (tail.length + 1))
      refine ⟨mark', hline, ?_⟩
      rw [hwritten, List.append_assoc, quotedFrom_escape hc hcolumn]
      refine hread.trans ?_
      simp
    · have hwritten : doubleQuotedText (c :: u) = c :: doubleQuotedText u := by
        rw [doubleQuotedText, List.flatMap_cons, if_neg hescape]
        rfl
      simp only [Bool.or_eq_true, Bool.not_eq_true', beq_iff_eq, not_or, Bool.not_eq_false,
        Bool.not_eq_true] at hescape
      obtain ⟨⟨⟨hc, hbreak⟩, hquote⟩, hslash⟩ := hescape
      rw [hwritten, List.cons_append]
      rcases space_or_isVisible hc hbreak with rfl | hvisible
      · obtain ⟨mark', hline, hread⟩ := ih (b ++ [' ']) out (hadvance 1)
        refine ⟨mark', hline, ?_⟩
        rw [quotedFrom_space, Gap.addBlank_ofBlanks, hread]
        simp
      · obtain ⟨mark', hline, hread⟩ := ih [] (c :: (b.reverse ++ out)) (hadvance 1)
        refine ⟨mark', hline, ?_⟩
        rw [quotedFrom_visible hvisible hcolumn (.inr rfl) (.inl ⟨hquote, hslash⟩)]
        refine hread.trans ?_
        simp

/-- **A text in double quotes is read back.** -/
theorem readQuoted_double (s : List Char) {mark : Mark} (hcolumn : 0 < mark.column)
    (rest : List Char) :
    ∃ mark', mark'.line = mark.line ∧
      readQuoted true ⟨doubleQuotedText s ++ '"' :: rest, mark⟩ =
        .ok ⟨s, ⟨rest, mark'⟩, false⟩ :=
  quotedFrom_double s [] [] hcolumn rest

/-! ### Single quotes -/

/-- White space with line breaks, the first of which was not escaped. -/
def Gap.ofBreaks (first : Char) (others : List Char) : Gap :=
  ⟨[], true, [first], others, false⟩

/-- Between single quotes no line feed begins a gap, so no break of it is dropped. -/
theorem Gap.text_ofBreaks {first : Char} (h : first ≠ '\n') (others : List Char) :
    (ofBreaks first others).text = first :: others := by
  simp [text, ofBreaks, h]

section

variable {mark : Mark} {c : Char} {rest : List Char}

theorem quotedFrom_break (hc : isPrintable c = true) (hbreak : isBreak c = true) (gap : Gap)
    (out : List Char) (mark : Mark) (rest : List Char) :
    quotedFrom false 0 gap out mark (c :: rest) =
      quotedFrom false 0 (gap.addBreak c) out mark.nextLine rest := by
  simp [quotedFrom, isSplitReturn_of_isPrintable hc, hbreak]

/-- Blanks at the start of a line stand for nothing. -/
theorem quotedFrom_indentation (first : Char) (others out : List Char) (mark : Mark)
    (rest : List Char) :
    quotedFrom false 0 (.ofBreaks first others) out mark (indentation ++ rest) =
      quotedFrom false 0 (.ofBreaks first others) out (mark.advance 2) rest :=
  rfl

theorem quotedFrom_singleChar (hc : isVisible c = true) (hcolumn : 0 < mark.column) (gap : Gap)
    (out rest : List Char) :
    ∃ n, quotedFrom false 0 gap out mark
        ((if c = '\'' then ['\'', '\''] else [c]) ++ rest) =
      quotedFrom false 0 .empty (c :: (gap.text.reverse ++ out)) (mark.advance n) rest := by
  by_cases hquote : c = '\''
  · subst hquote
    refine ⟨2, ?_⟩
    have htwice : quotedFrom false 0 gap out mark ('\'' :: '\'' :: rest) =
        quotedFrom false 1 .empty ('\'' :: (gap.text.reverse ++ out)) (mark.advance 1)
          ('\'' :: rest) := by
      simp [quotedFrom, isSplitReturn, isBreak, isSpace, not_atDocumentMarker hcolumn]
    exact htwice
  · refine ⟨1, ?_⟩
    rw [if_neg hquote]
    exact quotedFrom_visible hc hcolumn (.inl hquote) (.inr rfl) gap out rest

theorem quotedFrom_close (hrest : rest.head? ≠ some '\'') (hcolumn : 0 < mark.column) (gap : Gap)
    (out : List Char) :
    quotedFrom false 0 gap out mark ('\'' :: rest) =
      .ok ⟨out.reverse ++ gap.text, ⟨rest, mark.advance 1⟩, false⟩ := by
  simp [quotedFrom, isSplitReturn, isBreak, isSpace, not_atDocumentMarker hcolumn, hrest]

end

theorem singleQuotedText_visible {c : Char} (hc : isVisible c = true) (lineStart : Bool)
    (u : List Char) :
    singleQuotedText lineStart (c :: u) = (if lineStart then indentation else []) ++
      ((if c = '\'' then ['\'', '\''] else [c]) ++ singleQuotedText false u) := by
  simp [singleQuotedText, isBreak_of_isVisible hc]

theorem fitsQuotes_tail {c : Char} {u : List Char} (h : fitsQuotes (c :: u) = true) :
    fitsQuotes u = true := by
  simp only [fitsQuotes, Bool.and_eq_true, Bool.not_eq_true', List.all_cons] at h ⊢
  exact ⟨⟨h.1.1.2, hasNeighbours_tail h.1.2⟩, hasNeighbours_tail h.2⟩

/-- Behind a gap, what is left of a text is read up to the closing quote. -/
def ReadsOn (gap : Gap) (lineStart : Bool) (u rest : List Char) : Prop :=
  ∀ (out : List Char) (mark : Mark), (lineStart = false → 0 < mark.column) →
    ∃ mark', mark.line ≤ mark'.line ∧
      quotedFrom false 0 gap out mark (singleQuotedText lineStart u ++ '\'' :: rest) =
        .ok ⟨out.reverse ++ gap.text ++ u, ⟨rest, mark'⟩, false⟩

section

variable {c : Char} {gap : Gap} {u rest : List Char}

theorem readsOn_nil (hrest : rest.head? ≠ some '\'') (gap : Gap) : ReadsOn gap false [] rest := by
  intro out mark hcolumn
  refine ⟨mark.advance 1, Nat.le_refl _, (quotedFrom_close hrest (hcolumn rfl) _ _).trans ?_⟩
  rw [List.append_nil]

/-- A visible character ends the gap in front of it, wherever it stands. -/
theorem ReadsOn.visible (h : ReadsOn (.ofBlanks []) false u rest) (hc : isVisible c = true)
    (gap : Gap) : ReadsOn gap false (c :: u) rest := by
  intro out mark hcolumn
  obtain ⟨n, hstep⟩ := quotedFrom_singleChar hc (hcolumn rfl) gap out
    (singleQuotedText false u ++ '\'' :: rest)
  obtain ⟨mark', hline, hread⟩ := h (c :: (gap.text.reverse ++ out)) (mark.advance n)
    fun h => Nat.lt_of_lt_of_le (hcolumn h) (Nat.le_add_right _ _)
  refine ⟨mark', hline, ?_⟩
  rw [singleQuotedText_visible hc, if_neg Bool.false_ne_true, List.nil_append, List.append_assoc]
  refine hstep.trans (hread.trans ?_)
  simp

theorem ReadsOn.space {b : List Char} (h : ReadsOn (.ofBlanks (b ++ [' '])) false u rest) :
    ReadsOn (.ofBlanks b) false (' ' :: u) rest := by
  intro out mark hcolumn
  obtain ⟨mark', hline, hread⟩ := h out (mark.advance 1)
    fun h => Nat.lt_of_lt_of_le (hcolumn h) (Nat.le_add_right _ _)
  refine ⟨mark', hline, (quotedFrom_space _ _ _ _).trans (hread.trans ?_)⟩
  simp

/-- A line break makes the gap longer, and the next line starts behind it. -/
theorem ReadsOn.lineBreak (h : ReadsOn (gap.addBreak c) true u rest) (hc : isPrintable c = true)
    (hbreak : isBreak c = true) (htext : (gap.addBreak c).text = gap.text ++ [c])
    (lineStart : Bool) : ReadsOn gap lineStart (c :: u) rest := by
  intro out mark _
  obtain ⟨mark', hline, hread⟩ := h out mark.nextLine fun h => absurd h (by decide)
  refine ⟨mark', Nat.le_of_succ_le hline, ?_⟩
  rw [singleQuotedText, if_pos hbreak, List.cons_append, quotedFrom_break hc hbreak, hread, htext]
  simp

/-- The indentation of a line is passed over. -/
theorem ReadsOn.indented {first : Char} {others : List Char}
    (h : ReadsOn (.ofBreaks first others) false u rest) (hu : u.head?.any isBreak = false) :
    ReadsOn (.ofBreaks first others) true u rest := by
  intro out mark _
  obtain ⟨mark', hline, hread⟩ := h out (mark.advance 2) fun _ => Nat.succ_pos _
  have hlines : singleQuotedText true u = indentation ++ singleQuotedText false u := by
    cases u with
    | nil => rfl
    | cons c u =>
      have hc : isBreak c = false := hu
      simp [singleQuotedText, hc]
  refine ⟨mark', hline, ?_⟩
  rw [hlines, List.append_assoc, quotedFrom_indentation]
  exact hread

end

/-- Both the rest of a line and a further line of a text are read to its end. The induction is on
what is left of the text; no blank stands beside a line break, so none is lost. -/
theorem quotedFrom_single {u rest : List Char} (hfits : fitsQuotes u = true) (hfeed : '\n' ∉ u)
    (hrest : rest.head? ≠ some '\'') :
    (∀ b : List Char, (b ≠ [] → u.head?.any isBreak = false) → ReadsOn (.ofBlanks b) false u rest) ∧
    ∀ (first : Char) (others : List Char), first ≠ '\n' → u.head? ≠ some ' ' →
      ReadsOn (.ofBreaks first others) true u rest := by
  induction u with
  | nil => exact ⟨fun _ _ => readsOn_nil hrest _, fun _ _ _ _ => (readsOn_nil hrest _).indented rfl⟩
  | cons c u ih =>
    obtain ⟨hsame, hnext⟩ := ih (fitsQuotes_tail hfits) (List.not_mem_of_not_mem_cons hfeed)
    simp only [fitsQuotes, Bool.and_eq_true, Bool.not_eq_true', List.all_cons] at hfits
    obtain ⟨⟨⟨hc, -⟩, hbefore⟩, hbehind⟩ := hfits
    have hcfeed : c ≠ '\n' := Ne.symm (List.ne_of_not_mem_cons hfeed)
    rcases printable_cases hc with rfl | hbreak | hvisible
    · exact ⟨fun b _ => (hsame _ fun _ => not_head_of_hasNeighbours hbehind rfl).space,
        fun _ _ _ hspace => absurd rfl hspace⟩
    · have hindent : u.head? ≠ some ' ' := by
        intro hhead
        have := not_head_of_hasNeighbours hbefore hbreak
        simp [hhead] at this
      refine ⟨fun b hb => ?_, fun first others hfirst _ => ?_⟩
      · have hnone : b = [] := by
          by_contra hne
          have := hb hne
          simp [hbreak] at this
        have hopens : (Gap.ofBlanks b).addBreak c = .ofBreaks c [] := by
          simp [Gap.addBreak, Gap.ofBlanks, Gap.ofBreaks, breakText_of_isPrintable hc hbreak]
        refine ReadsOn.lineBreak ?_ hc hbreak ?_ false
        · rw [hopens]
          exact hnext c [] hcfeed hindent
        · rw [hopens, Gap.text_ofBreaks hcfeed, hnone]
          rfl
      · have hgrows : (Gap.ofBreaks first others).addBreak c = .ofBreaks first (others ++ [c]) := by
          simp [Gap.addBreak, Gap.ofBreaks, breakText_of_isPrintable hc hbreak]
        refine ReadsOn.lineBreak ?_ hc hbreak ?_ true
        · rw [hgrows]
          exact hnext first (others ++ [c]) hfirst hindent
        · rw [hgrows, Gap.text_ofBreaks hfirst, Gap.text_ofBreaks hfirst]
          rfl
    · have hblanks := hsame [] fun h => absurd rfl h
      exact ⟨fun b _ => hblanks.visible hvisible _, fun first others _ _ =>
        (hblanks.visible hvisible _).indented (isBreak_of_isVisible hvisible)⟩

/-- **A text in single quotes is read back.** -/
theorem readQuoted_single {s : List Char} (hfits : WrittenStyle.singleQuoted.Fits s)
    {rest : List Char} (hrest : rest.head? ≠ some '\'') {mark : Mark} (hcolumn : 0 < mark.column) :
    ∃ mark', mark.line ≤ mark'.line ∧
      readQuoted false ⟨singleQuotedText false s ++ '\'' :: rest, mark⟩ =
        .ok ⟨s, ⟨rest, mark'⟩, false⟩ :=
  (quotedFrom_single hfits.1 hfits.2 hrest).1 [] (fun h => absurd rfl h) [] mark fun _ => hcolumn

end RuleDelta.Yaml

import Mathlib.Tactic.ByContra
import Mathlib.Tactic.SplitIfs
import RuleDelta.Proofs.Yaml.PlainScalar
import RuleDelta.Yaml.BlockScalar

/-!
# Texts written line by line are read back

The hints in front of the lines say how they are indented, if the first line does not show it, and
what becomes of the line breaks at the end, which is how many of them belong to the text.

* `literalHints_eq` says what the hints mean, and `readHeader_literalHints` that they are read so;
* `reads_literalLines` reads the lines, one character after another (`ReadsRest.char`,
  `readsRest_lineBreak`, `ReadsLines.emptyLine`, `readsLines_start`);
* `readBlock_literal` reads all behind the sign of a text.
-/

namespace RuleDelta.Yaml

/-! ## Hints -/

/-- The indentation that the hints of a text tell. -/
def hintedIndent (s : List Char) : Option Nat :=
  if s.head?.any fun c => c == ' ' || isBreak c then some 2 else none

/-- What the hints of a text say of the line breaks at its end. -/
def hintedChomping (s : List Char) : Chomping :=
  if !s.getLast?.any isBreak then .strip
  else if s.dropLast.getLast?.all isBreak then .keep
  else .clip

/-- The sign of a chomping. -/
def Chomping.sign : Chomping → List Char
  | strip => ['-']
  | clip => []
  | keep => ['+']

theorem literalHints_eq (s : List Char) :
    literalHints s =
      (if (hintedIndent s).isSome then ['2'] else []) ++ (hintedChomping s).sign := by
  have hindent : (hintedIndent s).isSome = s.head?.any fun c => c == ' ' || isBreak c := by
    unfold hintedIndent
    split_ifs with h
    · exact h.symm
    · simpa using h
  rcases List.eq_nil_or_concat s with rfl | ⟨front, c, rfl⟩
  · rfl
  · rw [hindent, literalHints]
    congr 1
    rw [List.concat_eq_append, List.reverse_concat]
    simp only [hintedChomping, List.getLast?_concat, List.dropLast_concat, List.head?_reverse,
      Option.any_some]
    split_ifs <;> rfl

/-- **The hints are read as they are meant**, and the line behind them starts at its column. -/
theorem readHeader_literalHints (s rest : List Char) (mark : Mark) :
    ∃ mark', mark'.column = 0 ∧ mark.line < mark'.line ∧
      readHeader ⟨literalHints s ++ '\n' :: rest, mark⟩ =
        .ok (⟨hintedChomping s, hintedIndent s⟩, ⟨rest, mark'⟩) := by
  refine ⟨(mark.advance (literalHints s).length).nextLine, rfl, Nat.lt_succ_self _, ?_⟩
  have hindent : hintedIndent s = some 2 ∨ hintedIndent s = none := by
    unfold hintedIndent
    split_ifs
    · exact .inl rfl
    · exact .inr rfl
  rw [literalHints_eq]
  rcases hindent with hindent | hindent <;> rw [hindent] <;> cases hintedChomping s <;> rfl

/-! ## Lines -/

/-- The lines of a text end in front of a line that is not indented. -/
theorem blockFrom_end {f : BlockFrame} {rest : List Char} (hrest : OpensLine rest) (deepest : Nat)
    (b : BlockLines) {mark : Mark} (hcolumn : mark.column = 0) :
    blockFrom f (some 2) (.indentation deepest) b mark rest =
      .ok ⟨b.finish f.chomping, ⟨rest, mark⟩, false⟩ := by
  cases rest with
  | nil => rfl
  | cons c rest =>
    have hc : isVisible c = true := hrest
    simp [blockFrom, isSplitReturn_of_isBreak (isBreak_of_isVisible hc), isBreak_of_isVisible hc,
      ne_blank_of_isVisible hc, hcolumn]

/-- The text up to the end of the lines, with all line breaks. -/
def BlockLines.read (b : BlockLines) : List Char :=
  b.out.reverse ++ b.lineBreak ++ b.emptyBreaks

/-- The chomping that the hints tell keeps the line breaks that belong to the text. -/
theorem finish_hintedChomping {s : List Char} {b : BlockLines} (hread : b.read = s)
    (hends : s.getLast?.any isBreak = true)
    (hempty : b.emptyBreaks ≠ [] → s.dropLast.getLast?.all isBreak = true) :
    b.finish (hintedChomping s) = s := by
  rw [hintedChomping, hends]
  by_cases hkeep : s.dropLast.getLast?.all isBreak = true
  · simpa [hkeep, BlockLines.finish, BlockLines.read] using hread
  · have hnone : b.emptyBreaks = [] := by
      by_contra hne
      exact hkeep (hempty hne)
    simpa [hkeep, BlockLines.finish, BlockLines.read, hnone] using hread

section

variable {f : BlockFrame} {indent? : Option Nat} {c : Char} {mark : Mark}

theorem blockFrom_indentation (b : BlockLines) (deepest : Nat) (rest : List Char)
    (h : indent?.all (fun indent => mark.column < indent) = true) :
    blockFrom f indent? (.indentation deepest) b mark (' ' :: rest) =
      blockFrom f indent? (.indentation deepest) b (mark.advance 1) rest := by
  simp [blockFrom, isSplitReturn, h]

/-- An empty line. -/
theorem blockFrom_emptyLine (hc : isPrintable c = true) (hbreak : isBreak c = true)
    (b : BlockLines) (deepest : Nat) (hcolumn : mark.column = 0)
    (rest : List Char) :
    blockFrom f indent? (.indentation deepest) b mark (c :: rest) =
      blockFrom f indent? (.indentation deepest)
        { b with emptyBreaks := b.emptyBreaks ++ [c] } mark.nextLine rest := by
  have hblank : c ≠ ' ' ∧ c ≠ '\t' := by
    constructor <;> (rintro rfl; exact absurd hbreak (by decide))
  simp [blockFrom, isSplitReturn_of_isPrintable hc, hbreak, hblank, hcolumn,
    breakText_of_isPrintable hc hbreak]

/-- The first character of a line behind its indentation. Where the hints say nothing it shows the
indentation itself, so it must be no blank. -/
theorem blockFrom_startLine (hliteral : f.literal = true) (hleast : f.least = 1)
    (hbreak : isBreak c = false) (hindent : indent? = some 2 ∨ indent? = none ∧ isVisible c = true)
    (b : BlockLines) (hcolumn : mark.column = 0) (rest : List Char) :
    blockFrom f indent? (.indentation 0) b mark (indentation ++ c :: rest) =
      blockFrom f (some 2) .content ⟨c :: b.read.reverse, [], [], isSpace c⟩ (mark.advance 3)
        rest := by
  have hshallow : ∀ n < 2, indent?.all (fun indent => (mark.advance n).column < indent) = true := by
    intro n hn
    rcases hindent with rfl | ⟨rfl, -⟩
    · simp [Mark.advance, hcolumn, hn]
    · rfl
  have hline : (b.startLine true c) = ⟨b.read.reverse, [], [], isSpace c⟩ := by
    simp [BlockLines.startLine, BlockLines.read]
  have hfirst : blockFrom f indent? (.indentation 0) b (mark.advance 2) (c :: rest) =
      blockFrom f (some 2) .content ⟨c :: b.read.reverse, [], [], isSpace c⟩
        ((mark.advance 2).advance 1) rest := by
    have hcolumn2 : (mark.advance 2).column = 2 := by simp [Mark.advance, hcolumn]
    rcases hindent with rfl | ⟨rfl, hvisible⟩
    · simp [blockFrom, isSplitReturn_of_isBreak hbreak, hbreak, hcolumn2, hliteral, hline]
    · simp [blockFrom, isSplitReturn_of_isBreak hbreak, hbreak, hcolumn2, hliteral, hleast, hline,
        ne_blank_of_isVisible hvisible]
  calc blockFrom f indent? (.indentation 0) b mark (indentation ++ c :: rest)
      = blockFrom f indent? (.indentation 0) b (mark.advance 1) (' ' :: c :: rest) :=
        blockFrom_indentation b 0 _ (hshallow 0 (by decide))
    _ = blockFrom f indent? (.indentation 0) b (mark.advance 2) (c :: rest) :=
        blockFrom_indentation b 0 _ (hshallow 1 (by decide))
    _ = _ := hfirst

end

/-- Inside of a line, behind these characters, what is left of a text is read to its end. -/
def ReadsRest (f : BlockFrame) (s rest out u : List Char) : Prop :=
  ∀ (indented : Bool) (mark : Mark), ∃ mark', mark'.column = 0 ∧ mark.line ≤ mark'.line ∧
    blockFrom f (some 2) .content ⟨out, [], [], indented⟩ mark (literalLines false u ++ rest) =
      .ok ⟨s, ⟨rest, mark'⟩, false⟩

/-- At the start of a line, behind these lines, what is left of a text is read to its end. -/
def ReadsLines (f : BlockFrame) (s rest : List Char) (indent? : Option Nat) (b : BlockLines)
    (u : List Char) : Prop :=
  ∀ mark : Mark, mark.column = 0 → ∃ mark', mark'.column = 0 ∧ mark.line ≤ mark'.line ∧
    blockFrom f indent? (.indentation 0) b mark (literalLines true u ++ rest) =
      .ok ⟨s, ⟨rest, mark'⟩, false⟩

section

variable {f : BlockFrame} {s rest out u : List Char} {b : BlockLines} {c : Char}

theorem readsRest_nil (hrest : OpensLine rest) (hstrip : f.chomping = .strip) :
    ReadsRest f s rest s.reverse [] := by
  intro indented mark
  refine ⟨mark.nextLine, rfl, Nat.le_succ _, ?_⟩
  have hfeed : blockFrom f (some 2) .content ⟨s.reverse, [], [], indented⟩ mark ('\n' :: rest) =
      blockFrom f (some 2) (.indentation 0) ⟨s.reverse, ['\n'], [], indented⟩ mark.nextLine rest :=
    rfl
  refine hfeed.trans ((blockFrom_end hrest 0 _ rfl).trans ?_)
  simp [hstrip, BlockLines.finish]

theorem readsLines_nil (hrest : OpensLine rest) (hfinish : b.finish f.chomping = s) :
    ReadsLines f s rest (some 2) b [] := by
  intro mark hcolumn
  refine ⟨mark, hcolumn, Nat.le_refl _, (blockFrom_end hrest 0 b hcolumn).trans ?_⟩
  rw [hfinish]

theorem ReadsRest.char (h : ReadsRest f s rest (c :: out) u) (hc : isPrintable c = true)
    (hbreak : isBreak c = false) : ReadsRest f s rest out (c :: u) := by
  intro indented mark
  obtain ⟨mark', hcolumn', hline, hread⟩ := h indented (mark.advance 1)
  refine ⟨mark', hcolumn', hline, ?_⟩
  rw [literalLines, if_neg (by simp [hbreak]), if_neg Bool.false_ne_true, List.cons_append, ← hread]
  simp [blockFrom, isSplitReturn_of_isPrintable hc, hbreak]

/-- A line break ends the line. -/
theorem readsRest_lineBreak
    (h : ∀ indented, ReadsLines f s rest (some 2) ⟨out, [c], [], indented⟩ u)
    (hc : isPrintable c = true) (hbreak : isBreak c = true) : ReadsRest f s rest out (c :: u) := by
  intro indented mark
  obtain ⟨mark', hcolumn', hline, hread⟩ := h indented mark.nextLine rfl
  refine ⟨mark', hcolumn', Nat.le_of_succ_le hline, ?_⟩
  rw [literalLines, if_pos hbreak, List.cons_append, ← hread]
  simp [blockFrom, isSplitReturn_of_isPrintable hc, hbreak, breakText_of_isPrintable hc hbreak]

theorem ReadsLines.emptyLine
    (h : ReadsLines f s rest (some 2) { b with emptyBreaks := b.emptyBreaks ++ [c] } u)
    (hc : isPrintable c = true) (hbreak : isBreak c = true) :
    ReadsLines f s rest (some 2) b (c :: u) := by
  intro mark hcolumn
  obtain ⟨mark', hcolumn', hline, hread⟩ := h mark.nextLine rfl
  refine ⟨mark', hcolumn', Nat.le_of_succ_le hline, ?_⟩
  rw [literalLines, if_pos hbreak, List.cons_append, blockFrom_emptyLine hc hbreak b 0 hcolumn]
  exact hread

/-- A line starts behind its indentation, which it has to show where the hints do not tell it. -/
theorem readsLines_start (h : ReadsRest f s rest (c :: b.read.reverse) u)
    (hliteral : f.literal = true) (hleast : f.least = 1) (hbreak : isBreak c = false)
    {indent? : Option Nat} (hindent : indent? = some 2 ∨ indent? = none ∧ isVisible c = true) :
    ReadsLines f s rest indent? b (c :: u) := by
  intro mark hcolumn
  obtain ⟨mark', hcolumn', hline, hread⟩ := h (isSpace c) (mark.advance 3)
  refine ⟨mark', hcolumn', hline, ?_⟩
  rw [literalLines, if_neg (by simp [hbreak]), if_pos rfl, List.append_assoc, List.cons_append,
    blockFrom_startLine hliteral hleast hbreak hindent b hcolumn]
  exact hread

end

/-- Both the rest of a line and the lines behind one are read to the end of the text. The induction
is on what is left of the text. In front of that, at the start of a line, all line breaks at the end
are still apart from the other characters. -/
theorem reads_literalLines {s rest : List Char} (hshown : ∀ c ∈ s, isPrintable c = true)
    (hne : s ≠ []) (hrest : OpensLine rest) (u : List Char) :
    ∀ p, s = p ++ u →
      (p.getLast?.any isBreak = false →
        ReadsRest ⟨true, hintedChomping s, 1⟩ s rest p.reverse u) ∧
      ∀ b : BlockLines, b.read = p → p.getLast?.all isBreak = true →
        (b.emptyBreaks ≠ [] → p.dropLast.getLast?.all isBreak = true) →
        ReadsLines ⟨true, hintedChomping s, 1⟩ s rest (some 2) b u := by
  induction u with
  | nil =>
    intro p hs
    rw [List.append_nil] at hs
    subst hs
    refine ⟨fun hlast => ?_, fun b hread hlast hempty => ?_⟩
    · have hstrip : BlockFrame.chomping ⟨true, hintedChomping s, 1⟩ = .strip := by
        simp [hintedChomping, hlast]
      exact readsRest_nil hrest hstrip
    · have hends : s.getLast?.any isBreak = true := by
        cases hc : s.getLast? with
        | none => exact absurd (List.getLast?_eq_none_iff.mp hc) hne
        | some c => simpa [hc] using hlast
      exact readsLines_nil hrest (finish_hintedChomping hread hends hempty)
  | cons c u ih =>
    intro p hs
    have hc : isPrintable c = true := hshown c (by simp [hs])
    obtain ⟨hsame, hnext⟩ := ih (p ++ [c]) (by simp [hs])
    by_cases hbreak : isBreak c = true
    · have hlast : (p ++ [c]).getLast?.all isBreak = true := by simpa using hbreak
      refine ⟨fun _ => readsRest_lineBreak (fun indented => ?_) hc hbreak,
        fun b hread hall _ => (hnext _ ?_ hlast fun _ => ?_).emptyLine hc hbreak⟩
      · exact hnext _ (by simp [BlockLines.read]) hlast fun h => absurd rfl h
      · simp [← hread, BlockLines.read]
      · simpa using hall
    · rw [Bool.not_eq_true] at hbreak
      have hinside := hsame (by simpa using hbreak)
      rw [List.reverse_concat] at hinside
      refine ⟨fun _ => hinside.char hc hbreak, fun b hread _ _ => ?_⟩
      subst hread
      exact readsLines_start hinside rfl rfl hbreak (.inl rfl)

/-- The lines of a text are read with the indentation that the hints tell. Where they tell none the
first line shows it, which is read together with the first character. -/
theorem readsLines_hintedIndent {s rest : List Char} (hshown : ∀ c ∈ s, isPrintable c = true)
    (hne : s ≠ []) (hrest : OpensLine rest) :
    ReadsLines ⟨true, hintedChomping s, 1⟩ s rest (hintedIndent s) .empty s := by
  by_cases hopens : s.head?.any (fun c => c == ' ' || isBreak c) = true
  · rw [hintedIndent, if_pos hopens]
    exact (reads_literalLines hshown hne hrest s [] rfl).2 .empty rfl rfl
      fun h => absurd rfl h
  · rw [hintedIndent, if_neg hopens]
    cases s with
    | nil => exact absurd rfl hne
    | cons c u =>
      have hcut : c ≠ ' ' ∧ isBreak c = false := by simpa using hopens
      obtain ⟨hspace, hbreak⟩ := hcut
      have hvisible : isVisible c = true :=
        (space_or_isVisible (hshown c (List.mem_cons_self ..)) hbreak).resolve_left hspace
      have hrest := (reads_literalLines hshown hne hrest u [c] rfl).1 (by simpa using hbreak)
      exact readsLines_start hrest rfl rfl hbreak (.inr ⟨rfl, hvisible⟩)

/-- **A text that is written line by line is read back.** -/
theorem readBlock_literal {s rest : List Char} (hfits : WrittenStyle.literal.Fits s)
    (hrest : OpensLine rest) (mark : Mark) :
    ∃ mark', mark'.column = 0 ∧ mark.line < mark'.line ∧
      readBlock true 1 ⟨literalHints s ++ '\n' :: (literalLines true s ++ rest), mark⟩ =
        .ok ⟨s, ⟨rest, mark'⟩, false⟩ := by
  obtain ⟨hne, hlines⟩ := hfits
  have hshown : ∀ c ∈ s, isPrintable c = true := by
    simp only [fitsLines, Bool.and_eq_true, List.all_eq_true] at hlines
    exact hlines.1.1
  obtain ⟨mark₁, hcolumn₁, hline₁, hheader⟩ :=
    readHeader_literalHints s (literalLines true s ++ rest) mark
  obtain ⟨mark', hcolumn', hline', hread⟩ :=
    readsLines_hintedIndent hshown hne hrest mark₁ hcolumn₁
  refine ⟨mark', hcolumn', Nat.lt_of_lt_of_le hline₁ hline', ?_⟩
  have hindent : (hintedIndent s).map (fun n => if 1 = 0 then n else 1 - 1 + n) =
      hintedIndent s := by
    cases hintedIndent s <;> simp
  rw [readBlock, hheader]
  show blockFrom ⟨true, hintedChomping s, 1⟩
    ((hintedIndent s).map fun n => if 1 = 0 then n else 1 - 1 + n) _ _ _ _ = _
  rw [hindent]
  exact hread

end RuleDelta.Yaml

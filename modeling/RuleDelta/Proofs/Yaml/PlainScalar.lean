import RuleDelta.Proofs.Yaml.WrittenStyle
import RuleDelta.Yaml.PlainScalar

/-!
# Plain scalars are read back

A scalar without quotes ends at the colon behind a key, or at the line break behind a value with
nothing on the next line that belongs to it.

* `OpensLine` is what may stand behind the line of a value;
* `plainFrom_bare` reads a text that can stand without quotes, and `readPlain_name` reads a key.
-/

namespace RuleDelta.Yaml

/-- The text is empty or starts with a visible character, so it continues no scalar above it. -/
def OpensLine (rest : List Char) : Prop :=
  rest.head?.all isVisible = true

/-- White space of some blanks. -/
def Gap.ofBlanks (blanks : List Char) : Gap :=
  ⟨blanks, false, [], [], false⟩

theorem not_atDocumentMarker {mark : Mark} (h : 0 < mark.column) (rest : List Char) :
    Source.atDocumentMarker ⟨rest, mark⟩ = false := by
  simp [Source.atDocumentMarker, Source.atMarker, Nat.ne_of_gt h]

@[simp] theorem Gap.text_ofBlanks (blanks : List Char) : (ofBlanks blanks).text = blanks :=
  rfl

@[simp] theorem Gap.addBlank_ofBlanks (blanks : List Char) (c : Char) :
    (ofBlanks blanks).addBlank c = ofBlanks (blanks ++ [c]) :=
  rfl

/-! ## Values -/

/-- A scalar ends at a line break if nothing behind it is indented. -/
theorem plainFrom_lineEnd {rest : List Char} (hrest : OpensLine rest) (out : List Char)
    (mark : Mark) :
    plainFrom false 1 .empty out mark ('\n' :: rest) =
      .ok ⟨out.reverse, ⟨rest, mark.nextLine⟩, true⟩ := by
  have hbreak : plainFrom false 1 .empty out mark ('\n' :: rest) =
      plainFrom false 1 (Gap.empty.addBreak '\n') out mark.nextLine rest := rfl
  rw [hbreak]
  cases rest with
  | nil => rfl
  | cons c rest =>
    have hc : isVisible c = true := hrest
    have hstop : plainStopsAfter (Gap.empty.addBreak '\n') false 1 ⟨c :: rest, mark.nextLine⟩ =
        true := rfl
    simp only [plainFrom, isSplitReturn_of_isBreak (isBreak_of_isVisible hc),
      isBreak_of_isVisible hc, isSpace_of_isVisible hc, hstop, Bool.false_eq_true, if_false,
      if_true]
    rfl

/-- A visible character of a scalar, behind white space. -/
theorem plainFrom_visible {c : Char} (hc : isVisible c = true) {rest : List Char}
    (hword : c = ':' → endsWord rest.head? = false) {gap : Gap} {indent : Nat} {mark : Mark}
    (hgoes : plainStopsAfter gap false indent ⟨c :: rest, mark⟩ = false) (out : List Char) :
    plainFrom false indent gap out mark (c :: rest) =
      plainFrom false indent .empty (c :: (gap.text.reverse ++ out)) (mark.advance 1) rest := by
  have hcolon : (c == ':' && endsWord rest.head?) = false := by
    by_cases hc : c = ':'
    · simp [hc, hword hc]
    · simp [hc]
  simp [plainFrom, isSplitReturn_of_isBreak (isBreak_of_isVisible hc), isBreak_of_isVisible hc,
    isSpace_of_isVisible hc, hgoes, hcolon]

/-- No word behind blanks in a line ends a scalar, unless it starts a comment. -/
theorem plainStopsAfter_ofBlanks {b : List Char} {c : Char} (hhash : b ≠ [] → c ≠ '#') {mark : Mark}
    (hcolumn : 0 < mark.column) (rest : List Char) :
    plainStopsAfter (.ofBlanks b) false 1 ⟨c :: rest, mark⟩ = false := by
  by_cases hb : b = []
  · simp [plainStopsAfter, Gap.isEmpty, Gap.ofBlanks, hb]
  · simp [plainStopsAfter, not_atDocumentMarker hcolumn, Source.peek, hhash hb,
      Nat.ne_of_gt hcolumn]

/-- What can stand up to the end of a text without quotes. -/
structure EndsBare (u : List Char) : Prop where
  shown : ∀ c ∈ u, isPrintable c = true ∧ isBreak c = false
  unmarked : holdsIndicator u = false
  last : u.getLast? ≠ some ' '

namespace EndsBare

variable {c : Char} {u : List Char}

theorem cases (h : EndsBare (c :: u)) : c = ' ' ∨ isVisible c = true := by
  obtain ⟨hc, hbreak⟩ := h.shown c (List.mem_cons_self ..)
  exact space_or_isVisible hc hbreak

theorem tail (h : EndsBare (c :: u)) : EndsBare u where
  shown := (List.forall_mem_cons.mp h.shown).2
  unmarked := by
    have hcut := h.unmarked
    simp only [holdsIndicator, Bool.or_eq_false_iff] at hcut ⊢
    obtain ⟨⟨hcolons, hlast⟩, hhashes⟩ := hcut
    refine ⟨⟨hasNeighbours_tail hcolons, ?_⟩, hasNeighbours_tail hhashes⟩
    cases u with
    | nil => rfl
    | cons d u => rwa [List.getLast?_cons_cons] at hlast
  last := by
    have hlast := h.last
    cases u with
    | nil => simp
    | cons d u => rwa [List.getLast?_cons_cons] at hlast

/-- A blank is not the last character, and no comment starts behind it. -/
theorem behind_space (h : EndsBare (' ' :: u)) : u ≠ [] ∧ u.head? ≠ some '#' := by
  refine ⟨?_, ?_⟩
  · rintro rfl
    exact h.last rfl
  · intro hhash
    have hcut := h.unmarked
    simp only [holdsIndicator, Bool.or_eq_false_iff] at hcut
    have := not_head_of_hasNeighbours hcut.2 rfl
    simp [hhash] at this

/-- A colon is inside of a word. -/
theorem behind_colon (h : EndsBare (':' :: u)) (rest : List Char) :
    endsWord (u ++ '\n' :: rest).head? = false := by
  have hcut := h.unmarked
  simp only [holdsIndicator, Bool.or_eq_false_iff] at hcut
  obtain ⟨⟨hcolons, hlast⟩, -⟩ := hcut
  cases u with
  | nil => simp at hlast
  | cons d u =>
    have := not_head_of_hasNeighbours hcolons rfl
    simpa using this

end EndsBare

theorem endsBare_of_fits {s : List Char} (hfits : WrittenStyle.plain.Fits s) : EndsBare s := by
  obtain ⟨-, hbare⟩ := hfits
  simp only [fitsBare, fitsQuotes, hasAtEnd, Bool.and_eq_true, Bool.not_eq_true',
    Bool.or_eq_false_iff, List.all_eq_true, List.any_eq_false, Bool.not_eq_true] at hbare
  obtain ⟨⟨⟨⟨⟨⟨⟨hshown, -⟩, -⟩, hbreaks⟩, -, hlast⟩, -⟩, -⟩, hindicator⟩ := hbare
  refine ⟨fun c hc => ⟨hshown c hc, hbreaks c hc⟩, hindicator, ?_⟩
  intro hspace
  simp [hspace] at hlast

/-- **A text without indicators is read to its end.** The induction is on what is left of it, and
the blanks in front of that are kept until a visible character comes. -/
theorem plainFrom_bare {u rest : List Char} (hrest : OpensLine rest) (hu : EndsBare u)
    (b out : List Char) {mark : Mark} (hblanks : b ≠ [] → u ≠ [] ∧ u.head? ≠ some '#')
    (hcolumn : 0 < mark.column) :
    ∃ mark', mark'.column = 0 ∧ mark.line < mark'.line ∧
      plainFrom false 1 (.ofBlanks b) out mark (u ++ '\n' :: rest) =
        .ok ⟨out.reverse ++ b ++ u, ⟨rest, mark'⟩, true⟩ := by
  induction u generalizing b out mark with
  | nil =>
    cases b with
    | cons _ _ => exact absurd rfl (hblanks (List.cons_ne_nil _ _)).1
    | nil =>
      refine ⟨mark.nextLine, rfl, Nat.lt_succ_self _, ?_⟩
      rw [List.append_nil, List.append_nil]
      exact plainFrom_lineEnd hrest out mark
  | cons c u ih =>
    have hnext : 0 < (mark.advance 1).column := Nat.lt_of_lt_of_le hcolumn (Nat.le_add_right _ _)
    rcases hu.cases with rfl | hvisible
    · obtain ⟨mark', hcolumn', hline, hread⟩ :=
        ih hu.tail (b ++ [' ']) out (fun _ => hu.behind_space) hnext
      refine ⟨mark', hcolumn', hline, ?_⟩
      rw [List.append_assoc, List.append_assoc, List.singleton_append] at hread
      rw [List.append_assoc]
      exact hread
    · have hword : c = ':' → endsWord (u ++ '\n' :: rest).head? = false := by
        rintro rfl
        exact hu.behind_colon rest
      have hhash : b ≠ [] → c ≠ '#' := fun hb hc => (hblanks hb).2 (congrArg some hc)
      obtain ⟨mark', hcolumn', hline, hread⟩ :=
        ih hu.tail [] (c :: (b.reverse ++ out)) (fun h => absurd rfl h) hnext
      refine ⟨mark', hcolumn', hline, ?_⟩
      rw [List.cons_append, plainFrom_visible hvisible hword
        (plainStopsAfter_ofBlanks hhash hcolumn _)]
      refine hread.trans ?_
      simp

/-- **A text that fits is read back** from the line that it ends. -/
theorem readPlain_fits {s rest : List Char} (hfits : WrittenStyle.plain.Fits s)
    (hrest : OpensLine rest) {mark : Mark} (hcolumn : 0 < mark.column) :
    ∃ mark', mark'.column = 0 ∧ mark.line < mark'.line ∧
      readPlain false 1 ⟨s ++ '\n' :: rest, mark⟩ = .ok ⟨s, ⟨rest, mark'⟩, true⟩ :=
  plainFrom_bare hrest (endsBare_of_fits hfits) [] [] (fun h => absurd rfl h) hcolumn

/-- A text without quotes starts with a visible character that has no meaning of its own. -/
theorem opens_of_fits {c : Char} {u : List Char} (h : WrittenStyle.plain.Fits (c :: u)) :
    isPrintable c = true ∧ isVisible c = true ∧ opensWithIndicator (c :: u) = false := by
  have hends := endsBare_of_fits h
  obtain ⟨-, hbare⟩ := h
  simp only [fitsBare, hasAtEnd, Bool.and_eq_true, Bool.not_eq_true', Bool.or_eq_false_iff] at hbare
  obtain ⟨⟨⟨⟨-, hfirst, -⟩, -⟩, hindicator⟩, -⟩ := hbare
  refine ⟨(hends.shown c (List.mem_cons_self ..)).1, ?_, hindicator⟩
  rcases hends.cases with rfl | hvisible
  · cases hfirst
  · exact hvisible

/-! ## Keys -/

theorem isVisible_of_isNameChar {c : Char} (h : isNameChar c = true) : isVisible c = true := by
  have hne : ∀ d : Char, isNameChar d = false → c ≠ d := by
    rintro d hd rfl
    rw [h] at hd
    cases hd
  have hspace := hne ' ' (by decide)
  have htab := hne '\t' (by decide)
  have hbreaks := And.intro (hne '\n' (by decide)) (And.intro (hne '\r' (by decide))
    (And.intro (hne '\u0085' (by decide)) (And.intro (hne '\u2028' (by decide))
      (hne '\u2029' (by decide)))))
  simp [isVisible, isSpace, isBreak, hspace, htab, hbreaks]

theorem plainFrom_name {name rest : List Char} (hname : ∀ c ∈ name, isNameChar c = true)
    (hrest : endsWord rest.head? = true) (indent : Nat) (out : List Char) (mark : Mark) :
    plainFrom false indent .empty out mark (name ++ ':' :: rest) =
      .ok ⟨out.reverse ++ name, ⟨':' :: rest, mark.advance name.length⟩, false⟩ := by
  induction name generalizing out mark with
  | nil =>
    have hends : plainFrom false indent .empty out mark (':' :: rest) =
        .ok ⟨out.reverse, ⟨':' :: rest, mark⟩, false⟩ := by
      simp [plainFrom, isSplitReturn, isBreak, isSpace, plainStopsAfter, Gap.isEmpty, Gap.empty,
        hrest]
    simpa [Mark.advance] using hends
  | cons c name ih =>
    obtain ⟨hc, hname⟩ := List.forall_mem_cons.mp hname
    have hcolon : c ≠ ':' := by
      rintro rfl
      exact absurd hc (by decide)
    rw [List.cons_append, plainFrom_visible (isVisible_of_isNameChar hc)
      (fun h => absurd h hcolon) rfl, ih hname]
    simp [Mark.advance, Gap.text, Gap.empty, Nat.add_assoc, Nat.add_comm 1]

/-- **A key is read up to its colon.** -/
theorem readPlain_name {name rest : List Char} (hname : ∀ c ∈ name, isNameChar c = true)
    (hrest : endsWord rest.head? = true) (indent : Nat) (mark : Mark) :
    readPlain false indent ⟨name ++ ':' :: rest, mark⟩ =
      .ok ⟨name, ⟨':' :: rest, mark.advance name.length⟩, false⟩ :=
  plainFrom_name hname hrest indent [] mark

end RuleDelta.Yaml

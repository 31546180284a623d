import RuleDelta.RuleFile.Scan

/-!
# Lines of block scalars

A line is marked when it stands between the header of a block scalar and the last line of it, and
only then (`getElem?_scalarMarks_iff`). Headers are not marked themselves: a line that looks like one
inside of a block scalar is content.

* `IsContent` says what content is by the marks in front of it, and `isMarking_iff` that only one way
  to mark the lines agrees with that;
* `exists_run_of_marked` is what the marked lines look like from outside.
-/

namespace RuleDelta.RuleFile

open Text

/-! ## Lengths -/

theorem length_scalarMarksFrom (inside : Nat) (rows : List (List Char)) :
    (scalarMarksFrom inside rows).length = rows.length := by
  induction rows generalizing inside with
  | nil => cases inside <;> rfl
  | cons row rows ih => cases inside <;> simp [scalarMarksFrom, ih]

theorem scalarLength_le (parent : Nat) (rest : List (List Char)) :
    scalarLength parent rest ≤ rest.length := by
  unfold scalarLength
  calc ((rest.takeWhile (belongsTo parent)).reverse.dropWhile allBlank).length
      ≤ (rest.takeWhile (belongsTo parent)).reverse.length :=
        (List.dropWhile_suffix _).length_le
    _ = (rest.takeWhile (belongsTo parent)).length := List.length_reverse
    _ ≤ rest.length := (List.takeWhile_sublist _).length_le

@[simp] theorem scalarLength_nil (parent : Nat) : scalarLength parent [] = 0 := rfl

/-- A line belongs to a block scalar if it can, and if it has text or a later line belongs. -/
theorem scalarLength_cons (parent : Nat) (line : List Char) (rest : List (List Char)) :
    scalarLength parent (line :: rest) =
      if belongsTo parent line = true ∧ (allBlank line = true → scalarLength parent rest ≠ 0) then
        scalarLength parent rest + 1
      else 0 := by
  unfold scalarLength
  by_cases hbelongs : belongsTo parent line = true
  · rw [List.takeWhile_cons_of_pos hbelongs, List.reverse_cons, List.dropWhile_append]
    cases hlines : (rest.takeWhile (belongsTo parent)).reverse.dropWhile allBlank with
    | nil => by_cases hblank : allBlank line = true <;> simp [hbelongs, hblank]
    | cons last lines => simp [hbelongs]
  · rw [List.takeWhile_cons_of_neg hbelongs]
    simp [hbelongs]

/-! ## Marks -/

/-- The number of lines of the block scalar that starts on the first of some lines. -/
def scalarBehind (line : List Char) (rest : List (List Char)) : Nat :=
  match scalarParent? line with
  | some parent => scalarLength parent rest
  | none => 0

theorem scalarBehind_le (line : List Char) (rest : List (List Char)) :
    scalarBehind line rest ≤ rest.length := by
  unfold scalarBehind
  split
  · exact scalarLength_le _ rest
  · exact Nat.zero_le _

theorem scalarMarksFrom_succ (inside : Nat) (line : List Char) (rest : List (List Char)) :
    scalarMarksFrom (inside + 1) (line :: rest) = true :: scalarMarksFrom inside rest := rfl

theorem scalarMarksFrom_zero (line : List Char) (rest : List (List Char)) :
    scalarMarksFrom 0 (line :: rest) =
      false :: scalarMarksFrom (scalarBehind line rest) rest := rfl

/-- A block scalar starts on the line `header`: its content is indented deeper than `parent`. -/
structure ScalarAt (lines : List (List Char)) (marks : List Bool) (header parent : Nat) :
    Prop where
  /-- The header is no content itself. -/
  unmarked : marks[header]? = some false
  opens : lines[header]?.bind scalarParent? = some parent

/-- The line `p` stands behind the header of a block scalar, up to the last line of it. -/
def InScalar (lines : List (List Char)) (marks : List Bool) (p : Nat) : Prop :=
  ∃ header parent, ScalarAt lines marks header parent ∧ header < p ∧
    p ≤ header + scalarLength parent (lines.drop (header + 1))

section Marks

variable {line : List Char} {rest : List (List Char)} {mark : Bool} {marks : List Bool} {p : Nat}

theorem scalarAt_zero {parent : Nat} :
    ScalarAt (line :: rest) (mark :: marks) 0 parent ↔
      mark = false ∧ scalarParent? line = some parent :=
  ⟨fun ⟨hmark, hopens⟩ => ⟨by simpa using hmark, hopens⟩,
    fun ⟨hmark, hopens⟩ => ⟨by simpa using hmark, hopens⟩⟩

theorem scalarAt_succ {header parent : Nat} :
    ScalarAt (line :: rest) (mark :: marks) (header + 1) parent ↔
      ScalarAt rest marks header parent :=
  ⟨fun ⟨hmark, hopens⟩ => ⟨hmark, hopens⟩, fun ⟨hmark, hopens⟩ => ⟨hmark, hopens⟩⟩

/-- Behind the first line, a line is in the block scalar of the first line or in a later one. -/
theorem inScalar_succ :
    InScalar (line :: rest) (mark :: marks) (p + 1) ↔
      (mark = false ∧ p < scalarBehind line rest) ∨ InScalar rest marks p := by
  constructor
  · rintro ⟨header, parent, hscalar, hbehind, hlast⟩
    cases header with
    | zero =>
      obtain ⟨hmark, hopens⟩ := scalarAt_zero.mp hscalar
      rw [Nat.zero_add, List.drop_succ_cons, List.drop_zero] at hlast
      rw [scalarBehind, hopens]
      exact .inl ⟨hmark, hlast⟩
    | succ header =>
      rw [List.drop_succ_cons] at hlast
      exact .inr ⟨header, parent, scalarAt_succ.mp hscalar, by omega, by omega⟩
  · rintro (⟨hmark, hlength⟩ | ⟨header, parent, hscalar, hbehind, hlast⟩)
    · unfold scalarBehind at hlength
      split at hlength
      · rename_i parent hopens
        refine ⟨0, parent, scalarAt_zero.mpr ⟨hmark, hopens⟩, Nat.zero_lt_succ p, ?_⟩
        rwa [Nat.zero_add, List.drop_succ_cons, List.drop_zero]
      · exact absurd hlength (Nat.not_lt_zero p)
    · refine ⟨header + 1, parent, scalarAt_succ.mpr hscalar, by omega, ?_⟩
      rw [List.drop_succ_cons]
      omega

theorem not_inScalar_zero (lines : List (List Char)) : ¬InScalar lines marks 0 :=
  fun ⟨_, _, _, hbehind, _⟩ => Nat.not_lt_zero _ hbehind

theorem not_inScalar_nil : ¬InScalar [] marks p := by
  rintro ⟨header, parent, ⟨-, hopens⟩, -⟩
  cases hopens

/-- Lines are marked in the block scalar that is open in front of them and in those that start on
them: the induction is on the lines. -/
theorem getElem?_scalarMarksFrom_iff {lines : List (List Char)} {inside : Nat} :
    (scalarMarksFrom inside lines)[p]? = some true ↔
      p < min inside lines.length ∨ InScalar lines (scalarMarksFrom inside lines) p := by
  induction lines generalizing inside p with
  | nil => cases inside <;> simp [scalarMarksFrom, not_inScalar_nil]
  | cons line rest ih =>
    cases p with
    | zero => cases inside <;> simp [scalarMarksFrom, not_inScalar_zero]
    | succ p =>
      cases inside with
      | zero =>
        have hle := scalarBehind_le line rest
        simp [scalarMarksFrom_zero, ih, inScalar_succ, Nat.min_eq_left hle]
      | succ inside => simp [scalarMarksFrom_succ, ih, inScalar_succ]

end Marks

/-- **A line is marked exactly when it is content of a block scalar.** -/
theorem getElem?_scalarMarks_iff {lines : List (List Char)} {p : Nat} :
    (scalarMarks lines)[p]? = some true ↔ InScalar lines (scalarMarks lines) p := by
  have h : (scalarMarksFrom 0 lines)[p]? = some true ↔ _ := getElem?_scalarMarksFrom_iff
  simpa [scalarMarks] using h

/-! ## The marks by themselves -/

/-- The lines of `rest` up to the one at `last` can all belong to a block scalar with the given
parent, and the one at `last` has text. -/
structure RunsTo (parent : Nat) (rest : List (List Char)) (last : Nat) : Prop where
  text : ∃ line, rest[last]? = some line ∧ allBlank line = false
  belongs : ∀ k ≤ last, ∀ line, rest[k]? = some line → belongsTo parent line = true

theorem runsTo_zero {parent : Nat} {line : List Char} {rest : List (List Char)} :
    RunsTo parent (line :: rest) 0 ↔ belongsTo parent line = true ∧ allBlank line = false := by
  constructor
  · rintro ⟨⟨_, ⟨⟩, htext⟩, hbelongs⟩
    exact ⟨hbelongs 0 (Nat.le_refl _) line rfl, htext⟩
  · rintro ⟨hbelongs, htext⟩
    refine ⟨⟨line, rfl, htext⟩, fun k hk _ hline => ?_⟩
    obtain rfl := Nat.le_zero.mp hk
    obtain rfl := Option.some.inj hline
    exact hbelongs

theorem runsTo_succ {parent last : Nat} {line : List Char} {rest : List (List Char)} :
    RunsTo parent (line :: rest) (last + 1) ↔
      belongsTo parent line = true ∧ RunsTo parent rest last := by
  constructor
  · rintro ⟨htext, hbelongs⟩
    exact ⟨hbelongs 0 (Nat.zero_le _) line rfl, htext,
      fun k hk => hbelongs (k + 1) (Nat.succ_le_succ hk)⟩
  · rintro ⟨hline, htext, hbelongs⟩
    refine ⟨htext, fun k hk => ?_⟩
    cases k with
    | zero => simpa using hline
    | succ k => exact hbelongs k (Nat.le_of_succ_le_succ hk)

/-- A block scalar reaches over a line exactly if it reaches to a line with text at or behind it. -/
theorem lt_scalarLength_iff {parent i : Nat} {rest : List (List Char)} :
    i < scalarLength parent rest ↔ ∃ last, i ≤ last ∧ RunsTo parent rest last := by
  induction rest generalizing i with
  | nil =>
    refine ⟨nofun, ?_⟩
    rintro ⟨_, _, ⟨_, ⟨⟩, _⟩, _⟩
  | cons line rest ih =>
    have hrest : scalarLength parent rest ≠ 0 ↔ ∃ last, RunsTo parent rest last := by
      rw [← Nat.pos_iff_ne_zero, ih]
      simp
    rw [scalarLength_cons]
    constructor
    · intro h
      split at h
      · rename_i hline
        cases i with
        | zero =>
          by_cases hblank : allBlank line = true
          · obtain ⟨last, hlast⟩ := hrest.mp (hline.2 hblank)
            exact ⟨last + 1, Nat.zero_le _, runsTo_succ.mpr ⟨hline.1, hlast⟩⟩
          · exact ⟨0, (Nat.le_refl _), runsTo_zero.mpr ⟨hline.1, by simpa using hblank⟩⟩
        | succ i =>
          obtain ⟨last, hi, hlast⟩ := ih.mp (Nat.lt_of_succ_lt_succ h)
          exact ⟨last + 1, Nat.succ_le_succ hi, runsTo_succ.mpr ⟨hline.1, hlast⟩⟩
      · exact absurd h (Nat.not_lt_zero i)
    · rintro ⟨last, hi, hlast⟩
      cases last with
      | zero =>
        obtain ⟨hbelongs, htext⟩ := runsTo_zero.mp hlast
        rw [if_pos ⟨hbelongs, by simp [htext]⟩]
        omega
      | succ last =>
        obtain ⟨hbelongs, hlast⟩ := runsTo_succ.mp hlast
        rw [if_pos ⟨hbelongs, fun _ => hrest.mpr ⟨last, hlast⟩⟩]
        have := ih.mpr ⟨last, (Nat.le_refl _), hlast⟩
        omega


/-- Behind the line `header`, every line up to `last` is blank or indented deeper than `parent`, and
the line `last` is not blank. -/
structure Reaches (lines : List (List Char)) (header parent last : Nat) : Prop where
  text : ∃ line, lines[last]? = some line ∧ allBlank line = false
  deeper : ∀ k line, header < k → k ≤ last → lines[k]? = some line →
    allBlank line = true ∨ parent < indentOf line

theorem reaches_iff_runsTo {lines : List (List Char)} {header parent i : Nat} :
    Reaches lines header parent (header + 1 + i) ↔ RunsTo parent (lines.drop (header + 1)) i := by
  constructor
  · rintro ⟨htext, hdeeper⟩
    refine ⟨by rwa [List.getElem?_drop], fun k hk line hline => ?_⟩
    rw [List.getElem?_drop] at hline
    simpa [belongsTo] using hdeeper _ line (by omega) (by omega) hline
  · rintro ⟨htext, hbelongs⟩
    refine ⟨by rwa [List.getElem?_drop] at htext, fun k line hbehind hk hline => ?_⟩
    obtain ⟨j, rfl⟩ := Nat.exists_eq_add_of_lt hbehind
    have hrow := hbelongs j (by omega) line
    rw [List.getElem?_drop, show header + 1 + j = header + j + 1 by omega] at hrow
    simpa [belongsTo] using hrow hline

/-- The line `p` is content of a block scalar: some line in front of it is not marked and starts one
that reaches to `p` or further. -/
def IsContent (lines : List (List Char)) (marks : List Bool) (p : Nat) : Prop :=
  ∃ header parent last, ScalarAt lines marks header parent ∧ header < p ∧ p ≤ last ∧
    Reaches lines header parent last

theorem isContent_iff_inScalar {lines : List (List Char)} {marks : List Bool} {p : Nat} :
    IsContent lines marks p ↔ InScalar lines marks p := by
  constructor
  · rintro ⟨header, parent, last, hscalar, hbehind, hlast, hreaches⟩
    obtain ⟨i, rfl⟩ : ∃ i, last = header + 1 + i := ⟨last - (header + 1), by omega⟩
    have hlength := lt_scalarLength_iff.mpr ⟨i, Nat.le_refl i, reaches_iff_runsTo.mp hreaches⟩
    exact ⟨header, parent, hscalar, hbehind, by omega⟩
  · rintro ⟨header, parent, hscalar, hbehind, hlast⟩
    obtain ⟨i, rfl⟩ : ∃ i, p = header + 1 + i := ⟨p - (header + 1), by omega⟩
    have hlength : i < scalarLength parent (lines.drop (header + 1)) := by omega
    obtain ⟨last, hi, hruns⟩ := lt_scalarLength_iff.mp hlength
    exact ⟨header, parent, header + 1 + last, hscalar, hbehind, by omega,
      reaches_iff_runsTo.mpr hruns⟩

/-- One mark for each line, which says whether the line is content. -/
structure IsMarking (lines : List (List Char)) (marks : List Bool) : Prop where
  length_eq : marks.length = lines.length
  marked_iff : ∀ p, marks[p]? = some true ↔ IsContent lines marks p

theorem isMarking_scalarMarks (lines : List (List Char)) : IsMarking lines (scalarMarks lines) :=
  ⟨length_scalarMarksFrom 0 lines,
    fun _ => getElem?_scalarMarks_iff.trans isContent_iff_inScalar.symm⟩

/-- Whether a line is content depends on the marks in front of it only. -/
theorem IsContent.congr {lines : List (List Char)} {marks marks' : List Bool} {p : Nat}
    (h : IsContent lines marks p) (hfront : ∀ q < p, marks[q]? = marks'[q]?) :
    IsContent lines marks' p := by
  obtain ⟨header, parent, last, ⟨hunmarked, hopens⟩, hbehind, hrest⟩ := h
  exact ⟨header, parent, last, ⟨hfront header hbehind ▸ hunmarked, hopens⟩, hbehind, hrest⟩

/-- Two ways to mark the same lines agree: the induction is on the lines in front of the one looked
at. -/
theorem IsMarking.eq {lines : List (List Char)} {marks marks' : List Bool}
    (h : IsMarking lines marks) (h' : IsMarking lines marks') : marks = marks' := by
  have hlength : marks.length = marks'.length := h.length_eq.trans h'.length_eq.symm
  apply List.ext_getElem?
  intro p
  induction p using Nat.strongRecOn with
  | ind p ih =>
    have hsame : marks[p]? = some true ↔ marks'[p]? = some true := by
      rw [h.marked_iff, h'.marked_iff]
      exact ⟨fun hc => hc.congr ih, fun hc => hc.congr fun q hq => (ih q hq).symm⟩
    by_cases hp : p < marks.length
    · rw [List.getElem?_eq_getElem hp, List.getElem?_eq_getElem (hlength ▸ hp), Option.some_inj,
        Option.some_inj] at hsame
      rw [List.getElem?_eq_getElem hp, List.getElem?_eq_getElem (hlength ▸ hp),
        Bool.eq_iff_iff.mpr hsame]
    · rw [List.getElem?_eq_none (by omega), List.getElem?_eq_none (by omega)]

/-- **The marks are the only ones that mark what is content by them**: lines behind an unmarked
header up to the last one with text that all are blank or deep enough for. -/
theorem isMarking_iff {lines : List (List Char)} {marks : List Bool} :
    IsMarking lines marks ↔ marks = scalarMarks lines :=
  ⟨fun h => h.eq (isMarking_scalarMarks lines), fun h => h ▸ isMarking_scalarMarks lines⟩

/-- **Marked lines come in runs**: a run starts behind an unmarked header, it ends with a line that
has text, and the line behind it is not marked. -/
theorem exists_run_of_marked {lines : List (List Char)} {p : Nat}
    (h : (scalarMarks lines)[p]? = some true) :
    ∃ header parent last, ScalarAt lines (scalarMarks lines) header parent ∧ header < p ∧
      p ≤ last ∧ Reaches lines header parent last ∧
      (∀ q, header < q → q ≤ last → (scalarMarks lines)[q]? = some true) ∧
      (scalarMarks lines)[last + 1]? ≠ some true := by
  obtain ⟨header, parent, hscalar, hbehind, hlast⟩ := getElem?_scalarMarks_iff.mp h
  have hrun : ∀ q, header < q → q ≤ header + scalarLength parent (lines.drop (header + 1)) →
      (scalarMarks lines)[q]? = some true := fun q hq hq' =>
    getElem?_scalarMarks_iff.mpr ⟨header, parent, hscalar, hq, hq'⟩
  obtain ⟨i, hi⟩ : ∃ i, scalarLength parent (lines.drop (header + 1)) = i + 1 :=
    ⟨scalarLength parent (lines.drop (header + 1)) - 1, by omega⟩
  have hreaches : Reaches lines header parent (header + 1 + i) := by
    have hlength : i < scalarLength parent (lines.drop (header + 1)) := by omega
    obtain ⟨last, hfar, hruns⟩ := lt_scalarLength_iff.mp hlength
    have hle := lt_scalarLength_iff.mpr ⟨last, Nat.le_refl last, hruns⟩
    obtain rfl : last = i := by omega
    exact reaches_iff_runsTo.mpr hruns
  refine ⟨header, parent, header + 1 + i, hscalar, hbehind, by omega, hreaches,
    fun q hq hq' => hrun q hq (by omega), fun hnext => ?_⟩
  -- a header of the next line is no line of the run, nor one in front of it: the run's own header
  -- would then be marked
  obtain ⟨header', parent', hscalar', hbehind', hlast'⟩ := getElem?_scalarMarks_iff.mp hnext
  have hunmarked := hscalar.unmarked
  have hunmarked' := hscalar'.unmarked
  rcases Nat.lt_trichotomy header' header with hfront | rfl | hback
  · rw [getElem?_scalarMarks_iff.mpr ⟨header', parent', hscalar', hfront, by omega⟩] at hunmarked
    cases hunmarked
  · obtain rfl := Option.some.inj (hscalar.opens.symm.trans hscalar'.opens)
    omega
  · rw [hrun header' hback (by omega)] at hunmarked'
    cases hunmarked'

end RuleDelta.RuleFile

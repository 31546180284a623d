import Mathlib.Data.List.InsertIdx
import RuleDelta.Proofs.RuleFile.Renumber
import RuleDelta.Proofs.RuleFile.Scalar

/-!
# A line without text put into a file

A blank line or a comment, put anywhere but into a block scalar, moves the lines behind it and does
nothing else: the same lines are content of block scalars, and the same keys have the same items.
A comment has to start with its line, for an indented one may be content of a block scalar.

* `scalarMarks_insertIdx` is the part of the marks;
* `groupsFrom_insert` is the part of the groups, under any marks;
* `undisturbed_insertIdx` is the result.
-/

namespace RuleDelta.RuleFile

open Text

/-- The line holds only white space, or it starts with a comment. -/
def Silent (line : List Char) : Prop :=
  allBlank line = true ∨ line.head? = some '#'

namespace Silent

variable {line : List Char}

theorem isBlankOrComment (h : Silent line) : isBlankOrComment line = true := by
  rcases h with hblank | hcomment
  · exact isBlankOrComment_of_allBlank hblank
  · obtain ⟨rest, rfl⟩ := List.head?_eq_some_iff.mp hcomment
    rfl

/-- A block scalar takes a blank line and ends at a comment. -/
theorem belongsTo_eq (h : Silent line) (parent : Nat) :
    belongsTo parent line = allBlank line := by
  rcases h with hblank | hcomment
  · simp [belongsTo, hblank]
  · obtain ⟨rest, rfl⟩ := List.head?_eq_some_iff.mp hcomment
    simp [belongsTo, indentOf]

/-- No block scalar starts on the line. -/
theorem scalarParent?_eq (h : Silent line) : scalarParent? line = none := by
  have hdash : dropWord? ['-', ' '] (unindented line) = none :=
    dropWord?_unindented h.isBlankOrComment (by decide) (by decide) [' ']
  have hkey : keyParent? (indentOf line) (unindented line) = none := by
    rcases h with hblank | hcomment
    · have hcolon : ':' ∉ unindented line := fun hmem =>
        absurd (List.all_eq_true.mp hblank _ ((List.dropWhile_suffix _).subset hmem)) (by decide)
      simp [keyParent?, splitFirst?_eq_none hcolon]
    · obtain ⟨rest, rfl⟩ := List.head?_eq_some_iff.mp hcomment
      simp [keyParent?, unindented]
  simp only [scalarParent?, hdash, hkey]

end Silent

/-! ## Marks -/

variable {x : List Char} {p : Nat}

/-- A line behind a block scalar does not make it longer. -/
theorem scalarLength_insertIdx (hx : Silent x) {parent : Nat} {rest : List (List Char)}
    (hp : p ≤ rest.length) (hlast : scalarLength parent rest ≤ p) :
    scalarLength parent (rest.insertIdx p x) = scalarLength parent rest := by
  induction rest generalizing p with
  | nil =>
    obtain rfl : p = 0 := Nat.le_zero.mp hp
    simp [scalarLength_cons, hx.belongsTo_eq]
  | cons line rest ih =>
    cases p with
    | zero =>
      rw [Nat.le_zero.mp hlast, List.insertIdx_zero, scalarLength_cons, Nat.le_zero.mp hlast]
      simp [hx.belongsTo_eq]
    | succ p =>
      rw [List.insertIdx_succ_cons]
      by_cases hbelongs : belongsTo parent line = true
      · have hshorter : scalarLength parent rest ≤ p := by
          rw [scalarLength_cons] at hlast
          split at hlast
          · omega
          · rename_i hout
            have hnone : scalarLength parent rest = 0 := by
              by_contra hsome
              exact hout ⟨hbelongs, fun _ => hsome⟩
            omega
        rw [scalarLength_cons, scalarLength_cons, ih (Nat.le_of_succ_le_succ hp) hshorter]
      · simp [scalarLength_cons, hbelongs]

theorem scalarBehind_insertIdx (hx : Silent x) {line : List Char} {rest : List (List Char)}
    (hp : p ≤ rest.length) (hlast : scalarBehind line rest ≤ p) :
    scalarBehind line (rest.insertIdx p x) = scalarBehind line rest := by
  unfold scalarBehind at hlast ⊢
  split
  · rename_i parent hopens
    rw [hopens] at hlast
    exact scalarLength_insertIdx hx hp hlast
  · rfl

/-- A line outside of block scalars leaves the marks of the others as they are: the induction is on
the lines in front of it. -/
theorem scalarMarksFrom_insertIdx (hx : Silent x) {lines : List (List Char)} {inside : Nat}
    (hp : p ≤ lines.length) (hinside : inside ≤ p)
    (hmark : (scalarMarksFrom inside lines)[p]? ≠ some true) :
    scalarMarksFrom inside (lines.insertIdx p x) =
      (scalarMarksFrom inside lines).insertIdx p false := by
  induction lines generalizing inside p with
  | nil =>
    obtain rfl : p = 0 := Nat.le_zero.mp hp
    obtain rfl : inside = 0 := Nat.le_zero.mp hinside
    simp [scalarMarksFrom]
  | cons line rest ih =>
    cases p with
    | zero =>
      obtain rfl : inside = 0 := Nat.le_zero.mp hinside
      have hnone : scalarBehind x (line :: rest) = 0 := by simp [scalarBehind, hx.scalarParent?_eq]
      rw [List.insertIdx_zero, List.insertIdx_zero, scalarMarksFrom_zero, hnone]
    | succ p =>
      have hrest : p ≤ rest.length := Nat.le_of_succ_le_succ hp
      cases inside with
      | zero =>
        rw [scalarMarksFrom_zero, List.getElem?_cons_succ] at hmark
        have hlast : scalarBehind line rest ≤ p := by
          by_contra hlater
          refine hmark (getElem?_scalarMarksFrom_iff.mpr (.inl ?_))
          have hle := scalarBehind_le line rest
          omega
        rw [List.insertIdx_succ_cons, scalarMarksFrom_zero, scalarMarksFrom_zero,
          scalarBehind_insertIdx hx hrest hlast, ih hrest hlast hmark, List.insertIdx_succ_cons]
      | succ inside =>
        rw [scalarMarksFrom_succ, List.getElem?_cons_succ] at hmark
        rw [List.insertIdx_succ_cons, scalarMarksFrom_succ, scalarMarksFrom_succ,
          ih hrest (Nat.le_of_succ_le_succ hinside) hmark, List.insertIdx_succ_cons]

/-- **The marks of the other lines stay** when a line is put outside of block scalars. -/
theorem scalarMarks_insertIdx (hx : Silent x) {lines : List (List Char)} (hp : p ≤ lines.length)
    (hout : ¬InScalar lines (scalarMarks lines) p) :
    scalarMarks (lines.insertIdx p x) = (scalarMarks lines).insertIdx p false :=
  scalarMarksFrom_insertIdx hx hp (Nat.zero_le p) (getElem?_scalarMarks_iff.not.mpr hout)

/-! ## Groups -/

/-- The numbers of lines when one is put behind the first `p`: those behind it grow by one. -/
def skip (p : Nat) : Nat →o Nat where
  toFun line := if line ≤ p then line else line + 1
  monotone' a b h := by
    dsimp only
    split <;> split <;> omega

theorem skip_of_le {line : Nat} (h : line ≤ p) : skip p line = line := if_pos h

theorem skip_of_lt {line : Nat} (h : p < line) : skip p line = line + 1 := if_neg (by omega)

/-- A range over the place of the new line grows by that line. -/
theorem length_toList_renumber_skip (r : LineRange) :
    (r.renumber (skip p)).toList.length =
      r.toList.length + if r.first ≤ p ∧ p < r.last then 1 else 0 := by
  have hends := r.first_le_last
  simp only [LineRange.toList, LineRange.renumber, List.length_range']
  by_cases hfirst : r.first ≤ p <;> by_cases hlast : r.last ≤ p
  · rw [skip_of_le hfirst, skip_of_le hlast, if_neg (by omega)]
    rfl
  · rw [skip_of_le hfirst, skip_of_lt (by omega), if_pos ⟨hfirst, by omega⟩]
    omega
  · omega
  · rw [skip_of_lt (by omega), skip_of_lt (by omega), if_neg (by omega)]
    omega

theorem zip_insertIdx {α β : Type} {as : List α} {bs : List β} (h : as.length = bs.length)
    (hp : p ≤ as.length) (a : α) (b : β) :
    (as.insertIdx p a).zip (bs.insertIdx p b) =
      (as.zip bs).take p ++ (a, b) :: (as.zip bs).drop p := by
  induction as generalizing bs p with
  | nil =>
    obtain rfl : p = 0 := Nat.le_zero.mp hp
    obtain rfl : bs = [] := List.length_eq_zero_iff.mp h.symm
    rfl
  | cons c as ih =>
    cases bs with
    | nil => cases h
    | cons d bs =>
      cases p with
      | zero => rfl
      | succ p =>
        have hrest := ih (Nat.succ.inj h) (Nat.le_of_succ_le_succ hp)
        simp [hrest]

/-- **An idle line moves the lines behind it**, and does nothing else. -/
theorem groupsFrom_insert {s : List Char} (h : isBlankOrComment s = true)
    (front back : List MarkedLine) :
    groupsFrom 1 none (front ++ (s, false) :: back) =
      (groupsFrom 1 none (front ++ back)).map (RuleGroup.renumber (skip front.length)) := by
  have hfront : ∀ i < front.length, skip front.length (1 + i) = 1 + i := fun i hi =>
    skip_of_le (by omega)
  have hback : ∀ i < back.length,
      skip front.length (1 + front.length + i) = 1 + front.length + 1 + i := fun i _ => by
    rw [skip_of_lt (by omega)]
    omega
  have hfound := readRows_renumber none hfront
  rw [Option.map_none] at hfound
  have hopen : (readRows 1 none front).2.map (OpenGroup.renumber (skip front.length)) =
      (readRows 1 none front).2 := (congrArg Prod.snd hfound).symm
  have hgroups : (readRows 1 none front).1.map (RuleGroup.renumber (skip front.length)) =
      (readRows 1 none front).1 := (congrArg Prod.fst hfound).symm
  have hbehind := groupsFrom_renumber (readRows 1 none front).2 hback
  rw [hopen] at hbehind
  rw [groupsFrom_append, groupsFrom_append, groupsFrom_cons, readLine_of_isBlankOrComment h,
    List.nil_append, hbehind, List.map_append, hgroups]

/-! ## Both -/

/-- The line `x`, put in front of the line `p`, leaves marks and groups of the others as they are,
with other numbers for the lines behind it. -/
structure Undisturbed (lines : List (List Char)) (p : Nat) (x : List Char) : Prop where
  marks_eq : scalarMarks (lines.insertIdx p x) = (scalarMarks lines).insertIdx p false
  groups_eq : groups (lines.insertIdx p x) (scalarMarks (lines.insertIdx p x)) =
    (groups lines (scalarMarks lines)).map (RuleGroup.renumber (skip p))
  /-- An item over the place of the new line grows by it, and no other item does. -/
  items_grow : ∀ g ∈ groups lines (scalarMarks lines), ∀ b ∈ g.blocks,
    (b.renumber (skip p)).lines.toList.length =
      b.lines.toList.length + if b.lines.first ≤ p ∧ p < b.lines.last then 1 else 0

/-- **Blank lines and comments change nothing but the numbers of lines**, unless they are put into a
block scalar. -/
theorem undisturbed_insertIdx {lines : List (List Char)} (hp : p ≤ lines.length) (hx : Silent x)
    (hout : ¬InScalar lines (scalarMarks lines) p) : Undisturbed lines p x := by
  have hmarks := scalarMarks_insertIdx hx hp hout
  have hlength : lines.length = (scalarMarks lines).length := (length_scalarMarksFrom 0 lines).symm
  refine ⟨hmarks, ?_, fun _ _ b _ => length_toList_renumber_skip b.lines⟩
  have hfront : ((lines.zip (scalarMarks lines)).take p).length = p := by
    simp [← hlength, hp]
  have hinsert := groupsFrom_insert hx.isBlankOrComment
    ((lines.zip (scalarMarks lines)).take p) ((lines.zip (scalarMarks lines)).drop p)
  rw [hfront, List.take_append_drop] at hinsert
  rw [hmarks, groups, zip_insertIdx hlength hp, hinsert, groups]

/-- A block scalar, a blank line behind it and a further line of its item. -/
def looseFile : List (List Char) :=
  ["rules:".toList, "- alert: |".toList, "   rules:".toList, [], "  expr: x".toList, "- a".toList]

/-- A comment behind the blank line stands in the item. -/
theorem undisturbed_looseFile :
    Silent "# rules:".toList ∧ ¬InScalar looseFile (scalarMarks looseFile) 4 ∧
      Undisturbed looseFile 4 "# rules:".toList ∧
      (groups looseFile (scalarMarks looseFile)).map (RuleGroup.renumber (skip 4)) =
        [⟨1, [⟨{ first := 2, last := 6 }, 0⟩, ⟨.single 7, 0⟩]⟩] := by
  have hsilent : Silent "# rules:".toList := .inr rfl
  have hout : ¬InScalar looseFile (scalarMarks looseFile) 4 :=
    getElem?_scalarMarks_iff.not.mp (by decide +kernel)
  exact ⟨hsilent, hout, undisturbed_insertIdx (by decide) hsilent hout, by decide +kernel⟩

end RuleDelta.RuleFile

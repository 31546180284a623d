import Mathlib.Order.Hom.Basic
import Mathlib.Order.MinMax
import RuleDelta.Proofs.RuleFile.Line
import RuleDelta.RuleFile.Scan

/-!
# A scan in stretches

The scan of a file goes on behind some lines with what it has found in them and with the group that
is open there, and with nothing else (`groupsFrom_append`). Of the numbers of the lines it makes no
use but to give them out, so lines with other numbers have the same groups with these other numbers
(`groupsFrom_renumber`).

* `readRows` is what a stretch of lines does;
* `renumber` gives the lines of groups and items other numbers, in the same order.
-/

namespace RuleDelta

/-- The range with other numbers for its lines. -/
def LineRange.renumber (f : Nat →o Nat) (r : LineRange) : LineRange where
  first := f r.first
  last := f r.last
  first_le_last := f.monotone r.first_le_last

namespace RuleFile

/-- A line and whether it is content of a block scalar. -/
abbrev MarkedLine := List Char × Bool

namespace OpenGroup

variable {g : OpenGroup} {line : Nat} {s : List Char}

/-- A group without an item goes on with an item that is indented deep enough. -/
theorem read?_of_none (h : g.current = none) :
    g.read? line s = if isListItem (unindented s) = true ∧ g.indent ≤ indentOf s then
      some (g.startItem line (indentOf s)) else none := by
  simp only [read?, h]

/-- A group with an item goes on with a deeper line, or with an item at the same column. -/
theorem read?_of_some {b : RuleBlock} (h : g.current = some b) :
    g.read? line s = if b.dash < indentOf s then some (g.extend line)
      else if indentOf s = b.dash ∧ isListItem (unindented s) = true then
        some (g.startItem line (indentOf s)) else none := by
  simp only [read?, h]

end OpenGroup

/-- A line without text does nothing. -/
theorem readLine_of_isBlankOrComment {s : List Char} (h : isBlankOrComment s = true) (line : Nat)
    (open? : Option OpenGroup) : readLine line open? s false = ([], open?) := by
  cases open? with
  | none => simp [readLine, openAt, rulesKey?_of_isBlankOrComment h]
  | some g => simp [readLine, h]

/-! ## Stretches -/

/-- What some lines do from number `line` on: the groups that are finished in them, and the group
open behind them. -/
def readRows (line : Nat) (open? : Option OpenGroup) :
    List MarkedLine → List RuleGroup × Option OpenGroup
  | [] => ([], open?)
  | (s, marked) :: rest =>
    let (finished, open?) := readLine line open? s marked
    let (more, open?) := readRows (line + 1) open? rest
    (finished ++ more, open?)

section Stretches

variable {line : Nat} {open? : Option OpenGroup}

theorem readRows_cons (s : List Char) (marked : Bool) (rest : List MarkedLine) :
    readRows line open? ((s, marked) :: rest) =
      ((readLine line open? s marked).1 ++
          (readRows (line + 1) (readLine line open? s marked).2 rest).1,
        (readRows (line + 1) (readLine line open? s marked).2 rest).2) := rfl

theorem groupsFrom_cons (s : List Char) (marked : Bool) (rest : List MarkedLine) :
    groupsFrom line open? ((s, marked) :: rest) = (readLine line open? s marked).1 ++
      groupsFrom (line + 1) (readLine line open? s marked).2 rest := rfl

theorem readRows_append (xs ys : List MarkedLine) :
    readRows line open? (xs ++ ys) =
      ((readRows line open? xs).1 ++
          (readRows (line + xs.length) (readRows line open? xs).2 ys).1,
        (readRows (line + xs.length) (readRows line open? xs).2 ys).2) := by
  induction xs generalizing line open? with
  | nil => rfl
  | cons x xs ih =>
    have hline : line + 1 + xs.length = line + (x :: xs).length := by
      rw [List.length_cons]
      omega
    rw [List.cons_append, readRows_cons, readRows_cons, ih, hline, List.append_assoc]

/-- **A scan goes on behind a stretch of lines** with the group that is open there. -/
theorem groupsFrom_append (xs ys : List MarkedLine) :
    groupsFrom line open? (xs ++ ys) = (readRows line open? xs).1 ++
      groupsFrom (line + xs.length) (readRows line open? xs).2 ys := by
  induction xs generalizing line open? with
  | nil => rfl
  | cons x xs ih =>
    have hline : line + 1 + xs.length = line + (x :: xs).length := by
      rw [List.length_cons]
      omega
    rw [List.cons_append, groupsFrom_cons, readRows_cons, ih, hline, List.append_assoc]

/-- At the end of the lines the open group is finished. -/
theorem groupsFrom_eq (rows : List MarkedLine) :
    groupsFrom line open? rows = (readRows line open? rows).1 ++
      ((readRows line open? rows).2.map OpenGroup.close).toList := by
  have h : groupsFrom line open? (rows ++ []) = _ := groupsFrom_append rows []
  rwa [List.append_nil] at h

/-- A line with text that does not go on with the open group is read as if none were open. -/
theorem groupsFrom_of_read?_eq_none {g : OpenGroup} {s : List Char}
    (htext : isBlankOrComment s = false) (h : g.read? line s = none) (rest : List MarkedLine) :
    groupsFrom line (some g) ((s, false) :: rest) =
      g.close :: groupsFrom line none ((s, false) :: rest) := by
  have hread : readLine line (some g) s false =
      (g.close :: (readLine line none s false).1, (readLine line none s false).2) := by
    simp [readLine, htext, h]
  rw [groupsFrom_cons, groupsFrom_cons, hread, List.cons_append]

end Stretches

/-! ## Other numbers -/

variable (f : Nat →o Nat)

/-- The item with other numbers for its lines. -/
def RuleBlock.renumber (b : RuleBlock) : RuleBlock :=
  { b with lines := b.lines.renumber f }

/-- The group with other numbers for its lines. -/
def RuleGroup.renumber (g : RuleGroup) : RuleGroup :=
  ⟨f g.keyLine, g.blocks.map (RuleBlock.renumber f)⟩

/-- The open group with other numbers for its lines. -/
def OpenGroup.renumber (g : OpenGroup) : OpenGroup where
  keyLine := f g.keyLine
  indent := g.indent
  finished := g.finished.map (RuleBlock.renumber f)
  current := g.current.map (RuleBlock.renumber f)

@[simp] theorem RuleBlock.renumber_start (line dash : Nat) :
    (RuleBlock.start line dash).renumber f = .start (f line) dash := rfl

@[simp] theorem RuleBlock.renumber_dash (b : RuleBlock) : (b.renumber f).dash = b.dash := rfl

theorem RuleBlock.renumber_extend (b : RuleBlock) (line : Nat) :
    (b.extend line).renumber f = (b.renumber f).extend (f line) := by
  simp [renumber, extend, LineRange.renumber, f.monotone.map_max]

namespace OpenGroup

@[simp] theorem renumber_start (keyLine indent : Nat) :
    (start keyLine indent).renumber f = start (f keyLine) indent := rfl

theorem renumber_extend (g : OpenGroup) (line : Nat) :
    (g.extend line).renumber f = (g.renumber f).extend (f line) := by
  simp [renumber, extend, Function.comp_def, RuleBlock.renumber_extend]

theorem renumber_startItem (g : OpenGroup) (line dash : Nat) :
    (g.startItem line dash).renumber f = (g.renumber f).startItem (f line) dash := by
  cases hcurrent : g.current <;> simp [renumber, startItem, hcurrent]

theorem renumber_close (g : OpenGroup) : (g.renumber f).close = g.close.renumber f := by
  cases hcurrent : g.current <;> simp [renumber, close, RuleGroup.renumber, hcurrent]

theorem renumber_read? (g : OpenGroup) (line : Nat) (s : List Char) :
    (g.renumber f).read? (f line) s = (g.read? line s).map (renumber f) := by
  cases hcurrent : g.current with
  | none =>
    have hrenumbered : (g.renumber f).current = none := by simp [renumber, hcurrent]
    rw [read?_of_none hcurrent, read?_of_none hrenumbered, Option.map_if, renumber_startItem]
    rfl
  | some b =>
    have hrenumbered : (g.renumber f).current = some (b.renumber f) := by simp [renumber, hcurrent]
    rw [read?_of_some hcurrent, read?_of_some hrenumbered, apply_ite (Option.map (renumber f)),
      Option.map_if, Option.map_some, renumber_extend, renumber_startItem]
    rfl

end OpenGroup

/-- What is found, with other numbers for the lines. -/
def renumberFound (found : List RuleGroup × Option OpenGroup) :
    List RuleGroup × Option OpenGroup :=
  (found.1.map (RuleGroup.renumber f), found.2.map (OpenGroup.renumber f))

theorem openAt_renumber (line : Nat) (s : List Char) :
    openAt (f line) s = renumberFound f (openAt line s) := by
  unfold openAt
  split <;> rfl

/-- **A line is read in the same way under another number.** -/
theorem readLine_renumber (line : Nat) (open? : Option OpenGroup) (s : List Char)
    (marked : Bool) :
    readLine (f line) (open?.map (OpenGroup.renumber f)) s marked =
      renumberFound f (readLine line open? s marked) := by
  cases open? with
  | none =>
    cases marked
    · exact openAt_renumber f line s
    · rfl
  | some g =>
    cases marked with
    | true =>
      have hextend := g.renumber_extend f line
      simp [readLine, renumberFound, hextend]
    | false =>
      by_cases htext : isBlankOrComment s = true
      · simp [readLine, renumberFound, htext]
      · have hread := g.renumber_read? f line s
        have hopen := openAt_renumber f line s
        have hclose := g.renumber_close f
        cases hgo : g.read? line s with
        | none =>
          rw [hgo] at hread
          simp [readLine, renumberFound, htext, hgo, hread, hopen, hclose]
        | some g' =>
          rw [hgo] at hread
          simp [readLine, renumberFound, htext, hgo, hread]

variable {f} {line line' : Nat}

/-- All lines are read in the same way under other numbers, by induction on the lines. -/
theorem readRows_renumber (open? : Option OpenGroup) {rows : List MarkedLine}
    (h : ∀ i < rows.length, f (line + i) = line' + i) :
    readRows line' (open?.map (OpenGroup.renumber f)) rows =
      renumberFound f (readRows line open? rows) := by
  induction rows generalizing line line' open? with
  | nil => rfl
  | cons row rest ih =>
    obtain ⟨s, marked⟩ := row
    have hline : f line = line' := h 0 (by simp)
    have hnext : ∀ i < rest.length, f (line + 1 + i) = line' + 1 + i := by
      intro i hi
      have hlater := h (i + 1) (by simpa using hi)
      rw [Nat.add_assoc, Nat.add_comm 1 i, hlater]
      omega
    have hrest := ih (readLine line open? s marked).2 hnext
    have hhere := readLine_renumber f line open? s marked
    rw [hline] at hhere
    rw [readRows_cons, readRows_cons, hhere]
    simp only [renumberFound, hrest, List.map_append]

/-- **Lines with other numbers have the same groups** with these other numbers. -/
theorem groupsFrom_renumber (open? : Option OpenGroup) {rows : List MarkedLine}
    (h : ∀ i < rows.length, f (line + i) = line' + i) :
    groupsFrom line' (open?.map (OpenGroup.renumber f)) rows =
      (groupsFrom line open? rows).map (RuleGroup.renumber f) := by
  have hrows := readRows_renumber open? h
  rw [groupsFrom_eq, groupsFrom_eq, hrows, List.map_append]
  cases hopen : (readRows line open? rows).2 <;>
    simp [renumberFound, hopen, OpenGroup.renumber_close]

end RuleFile

end RuleDelta

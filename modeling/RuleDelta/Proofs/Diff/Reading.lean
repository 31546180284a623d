import RuleDelta.Proofs.Diff.Header

/-!
# Reading a diff row by row

A cursor that stands in a hunk has as many lines left as the rest of the hunk's script has on either
side (`Cursor.Standing`). Each row keeps that up, marker rows among them, so the cursor leaves a
hunk exactly behind its last line, and no line of a hunk is read as a header.

* `Cursor.Reads` says what rows are read between two assertions on the cursor;
* `reads_edit`, `reads_shown`, `reads_excerpts`, `reads_file` and `reads_files` say it of a line, a
  hunk, the hunks of a file, a file and the files of a diff.
-/

namespace RuleDelta.Diff

open Text

/-! ## Inserted lines along a script -/

theorem oldLength_cons (e : Edit) (s : List Edit) :
    oldLength (e :: s) = oldLength s + if e.sign.isOld then 1 else 0 :=
  List.countP_cons

theorem newLength_cons (e : Edit) (s : List Edit) :
    newLength (e :: s) = newLength s + if e.sign.isNew then 1 else 0 :=
  List.countP_cons

theorem oldLength_append (s t : List Edit) : oldLength (s ++ t) = oldLength s + oldLength t :=
  List.countP_append

theorem newLength_append (s t : List Edit) : newLength (s ++ t) = newLength s + newLength t :=
  List.countP_append

theorem newLength_eq_length (s : List Edit) :
    newLength s = (s.filter fun e => e.sign.isNew).length :=
  List.countP_eq_length_filter

theorem insertedFrom_nil (before : Nat) : insertedFrom before [] = [] := rfl

theorem insertedFrom_append (before : Nat) (s t : List Edit) :
    insertedFrom before (s ++ t) =
      insertedFrom before s ++ insertedFrom (before + newLength s) t := by
  rw [insertedFrom, List.filter_append, List.zipIdx_append, List.filter_append,
    ← newLength_eq_length, Nat.add_right_comm]
  rfl

theorem insertedFrom_kept (before : Nat) (k : KeptLines) : insertedFrom before k.edits = [] := by
  refine List.filter_eq_nil_iff.mpr ?_
  rintro ⟨e, n⟩ hmem
  have he := (List.mem_filter.mp (List.fst_mem_of_mem_zipIdx hmem)).1
  simp [k.kept e he]

theorem insertedFrom_singleton (before : Nat) (e : Edit) :
    insertedFrom before [e] = if e.sign = .inserted then [(e, before + 1)] else [] := by
  obtain ⟨sign, text, unended⟩ := e
  cases sign <;> simp [insertedFrom, Sign.isNew]

/-- The lines that are added to a file, if there is one. -/
def addedTo (file : Option (List Char)) (inserted : List (Edit × Nat)) : List AddedLine :=
  match file with
  | none => []
  | some path => inserted.map fun (e, n) =>
    ⟨String.ofList path, n, String.ofList (dropReturn e.text.chars)⟩

@[simp] theorem addedTo_nil (file : Option (List Char)) : addedTo file [] = [] := by
  cases file <;> rfl

theorem addedTo_append (file : Option (List Char)) (xs ys : List (Edit × Nat)) :
    addedTo file (xs ++ ys) = addedTo file xs ++ addedTo file ys := by
  cases file with
  | none => rfl
  | some path => exact List.map_append

namespace Cursor

/-! ## Reading rows -/

/-- From each cursor with `P` the rows are read as these added lines, and the cursor behind them
has `Q`. -/
def Reads (P : Cursor → Prop) (rows : List (List Char)) (added : List AddedLine)
    (Q : Cursor → Prop) : Prop :=
  ∀ c, P c → ∃ c', Q c' ∧
    ∀ rest, c.addedLines (rows.map dropReturn ++ rest) = added ++ c'.addedLines rest

namespace Reads

variable {P Q R : Cursor → Prop} {rows rows' : List (List Char)} {added added' : List AddedLine}

theorem nil (h : ∀ c, P c → Q c) : Reads P [] [] Q :=
  fun c hc => ⟨c, h c hc, fun _ => rfl⟩

theorem one {row : List Char} {added? : Option AddedLine}
    (h : ∀ c, P c → ∃ c', Q c' ∧ c.advance (dropReturn row) = (c', added?)) :
    Reads P [row] added?.toList Q := by
  intro c hc
  obtain ⟨c', hc', hadvance⟩ := h c hc
  refine ⟨c', hc', fun rest => ?_⟩
  simp only [List.map_cons, List.map_nil, List.cons_append, List.nil_append, Cursor.addedLines,
    hadvance]

/-- A row that adds no line. -/
theorem quiet {row : List Char}
    (h : ∀ c, P c → ∃ c', Q c' ∧ c.advance (dropReturn row) = (c', none)) : Reads P [row] [] Q :=
  one h

/-- Rows are read one stretch after the other. -/
theorem append (h : Reads P rows added Q) (h' : Reads Q rows' added' R) :
    Reads P (rows ++ rows') (added ++ added') R := by
  intro c hc
  obtain ⟨d, hd, hrows⟩ := h c hc
  obtain ⟨e, he, hrows'⟩ := h' d hd
  refine ⟨e, he, fun rest => ?_⟩
  rw [List.map_append, List.append_assoc, hrows, hrows', List.append_assoc]

theorem mono {P' Q' : Cursor → Prop} (h : Reads P rows added Q) (hP : ∀ c, P' c → P c)
    (hQ : ∀ c, Q c → Q' c) : Reads P' rows added Q' := by
  intro c hc
  obtain ⟨c', hc', hrows⟩ := h c (hP c hc)
  exact ⟨c', hQ c' hc', hrows⟩

end Reads

/-! ## Lines of a hunk -/

/-- The cursor reads a file and has the lines of this script left, behind so many new lines. -/
structure Standing (file : Option (List Char)) (before : Nat) (script : List Edit) (c : Cursor) :
    Prop where
  file : c.file = file
  oldLeft : c.oldLeft = oldLength script
  newLeft : c.newLeft = newLength script
  /-- The number of the next new line counts only where there is one. -/
  line : newLength script ≠ 0 → c.line = before + 1

/-- A row that marks a missing line feed moves no cursor. -/
theorem advance_unendedRow (c : Cursor) : c.advance unendedRow = (c, none) := by
  unfold advance
  split
  · rfl
  · rw [readHeader_unendedRow]

theorem reads_unendedRow (P : Cursor → Prop) : Reads P [unendedRow] [] P := by
  refine Reads.quiet fun c hc => ⟨c, hc, ?_⟩
  rw [dropReturn_eq_self (by decide)]
  exact advance_unendedRow c

/-- The row of a line takes the line off the script that is left. -/
theorem advance_edit {file : Option (List Char)} {before : Nat} {e : Edit} {script : List Edit}
    {c : Cursor} (hc : c.Standing file before (e :: script)) :
    ∃ c', Standing file (before + newLength [e]) script c' ∧
      c.advance (e.sign.char :: dropReturn e.text.chars) =
        (c', (addedTo file (insertedFrom before [e])).head?) := by
  obtain ⟨hfile, hold, hnew, hline⟩ := hc
  obtain ⟨sign, text, unended⟩ := e
  rw [oldLength_cons] at hold
  rw [newLength_cons] at hnew hline
  rw [insertedFrom_singleton, newLength_cons]
  cases sign with
  | kept =>
    simp only [Sign.isOld, Sign.isNew, if_true] at hold hnew hline ⊢
    have hpos : c.inHunk = true := by simp [inHunk, hnew]
    have hline := hline (Nat.succ_ne_zero _)
    refine ⟨{ c with line := c.line + 1, oldLeft := c.oldLeft - 1, newLeft := c.newLeft - 1 },
      ⟨hfile, by simp [hold], by simp [hnew], fun _ => ?_⟩, ?_⟩
    · simp [hline, newLength]
    · simp [advance, hpos, Sign.char]
  | deleted =>
    simp only [Sign.isOld, Sign.isNew, if_true, Bool.false_eq_true, if_false, Nat.add_zero]
      at hold hnew hline ⊢
    have hpos : c.inHunk = true := by simp [inHunk, hold]
    refine ⟨{ c with oldLeft := c.oldLeft - 1 }, ⟨hfile, by simp [hold], hnew, fun h => ?_⟩, ?_⟩
    · simp [hline h, newLength]
    · simp [advance, hpos, Sign.char]
  | inserted =>
    simp only [Sign.isOld, Sign.isNew, if_true, Bool.false_eq_true, if_false, Nat.add_zero]
      at hold hnew hline ⊢
    have hpos : c.inHunk = true := by simp [inHunk, hnew]
    have hline := hline (Nat.succ_ne_zero _)
    refine ⟨{ c with line := c.line + 1, newLeft := c.newLeft - 1 },
      ⟨hfile, hold, by simp [hnew], fun _ => ?_⟩, ?_⟩
    · simp [hline, newLength]
    · cases file <;> simp [advance, hpos, Sign.char, hfile, addedTo, hline]

/-- A line of a hunk is read, with the mark behind it if there is one. -/
theorem reads_edit (file : Option (List Char)) (before : Nat) (e : Edit) (script : List Edit) :
    Reads (Standing file before (e :: script)) e.rows (addedTo file (insertedFrom before [e]))
      (Standing file (before + newLength [e]) script) := by
  have hrow : Reads (Standing file before (e :: script)) [e.sign.char :: e.text.chars]
      (addedTo file (insertedFrom before [e])).head?.toList
      (Standing file (before + newLength [e]) script) := by
    refine Reads.one fun c hc => ?_
    have hsign : e.sign.char ≠ '\r' := by cases e.sign <;> decide
    rw [dropReturn_cons hsign]
    exact advance_edit hc
  have hone : (addedTo file (insertedFrom before [e])).head?.toList =
      addedTo file (insertedFrom before [e]) := by
    rw [insertedFrom_singleton]
    cases file <;> split <;> rfl
  rw [hone] at hrow
  unfold Edit.rows
  split
  · simpa using hrow.append (reads_unendedRow _)
  · exact hrow

/-- **A hunk is read to its last line**, by induction on the lines that are left. -/
theorem reads_shown (file : Option (List Char)) (before : Nat) (script : List Edit) :
    Reads (Standing file before script) (script.flatMap Edit.rows)
      (addedTo file (insertedFrom before script))
      (Standing file (before + newLength script) []) := by
  induction script generalizing before with
  | nil =>
    rw [insertedFrom_nil, addedTo_nil]
    exact Reads.nil fun _ hc => hc
  | cons e script ih =>
    have hread := (reads_edit file before e script).append (ih (before + newLength [e]))
    have hsplit := insertedFrom_append before [e] script
    have hlength := newLength_append [e] script
    rw [List.singleton_append] at hsplit hlength
    rw [hsplit, addedTo_append, List.flatMap_cons, hlength, ← Nat.add_assoc]
    exact hread

/-! ## Hunks -/

/-- The cursor reads a file and is outside its hunks. -/
def Between (file : Option (List Char)) (c : Cursor) : Prop :=
  c.file = file ∧ c.oldLeft = 0 ∧ c.newLeft = 0

theorem Standing.between {file : Option (List Char)} {before : Nat} {c : Cursor}
    (h : c.Standing file before []) : c.Between file :=
  ⟨h.file, h.oldLeft, h.newLeft⟩

theorem Between.advance {file : Option (List Char)} {c : Cursor} (h : c.Between file)
    (row : List Char) : c.advance row = (c.readHeader row, none) := by
  have hnot : c.inHunk = false := by simp [inHunk, h.2.1, h.2.2]
  simp [Cursor.advance, hnot]

/-- The header of a hunk sets the cursor to the script of the hunk. -/
theorem reads_headerRow (file : Option (List Char)) (x : Excerpt) {old new : Nat}
    (hold : old + oldLength x.edits ≤ wordMax) (hnew : new + newLength x.edits ≤ wordMax) :
    Reads (Between file) [x.headerRow old new] []
      (Standing file (new + newLength x.hidden.edits) x.shown) := by
  refine Reads.quiet fun c hc => ?_
  have hread := readHunk?_headerRow x hold hnew
  rw [hc.advance]
  rw [dropReturn_headerRow] at hread ⊢
  rw [readHeader_hunkRow hread]
  refine ⟨_, ?_, rfl⟩
  exact ⟨hc.1, rfl, rfl, fun hne => if_neg hne⟩

/-- The hunks of a file are read, by induction on the hunks that are left. -/
theorem reads_excerpts (file : Option (List Char)) (xs : List Excerpt) {old new : Nat}
    (hold : old + oldLength (xs.flatMap Excerpt.edits) ≤ wordMax)
    (hnew : new + newLength (xs.flatMap Excerpt.edits) ≤ wordMax) :
    Reads (Between file) (Excerpt.rowsFrom old new xs)
      (addedTo file (insertedFrom new (xs.flatMap Excerpt.edits))) (Between file) := by
  induction xs generalizing old new with
  | nil =>
    rw [List.flatMap_nil, insertedFrom_nil, addedTo_nil]
    exact Reads.nil fun _ hc => hc
  | cons x xs ih =>
    rw [List.flatMap_cons, oldLength_append, ← Nat.add_assoc] at hold
    rw [List.flatMap_cons, newLength_append, ← Nat.add_assoc] at hnew
    have hheader : Reads (Between file) [x.headerRow old new] []
        (Standing file (new + newLength x.hidden.edits) x.shown) :=
      reads_headerRow file x (by omega) (by omega)
    have hshown := reads_shown file (new + newLength x.hidden.edits) x.shown
    have hrest := ih hold hnew
    have hinserted : insertedFrom new (x.edits ++ xs.flatMap Excerpt.edits) =
        insertedFrom (new + newLength x.hidden.edits) x.shown ++
          insertedFrom (new + newLength x.edits) (xs.flatMap Excerpt.edits) := by
      rw [insertedFrom_append, Excerpt.edits, insertedFrom_append, insertedFrom_kept,
        List.nil_append]
    rw [List.flatMap_cons, hinserted, addedTo_append]
    exact hheader.append ((hshown.mono (fun _ hc => hc) fun _ hc => hc.between).append hrest)

/-! ## Files -/

/-- The cursor is outside the hunks of any file. -/
def Idle (c : Cursor) : Prop :=
  c.Between c.file

theorem Between.idle {file : Option (List Char)} {c : Cursor} (h : c.Between file) : c.Idle :=
  ⟨rfl, h.2⟩

/-- Rows that are read alike in every file are read outside the hunks of any. -/
theorem Reads.ofBetween {rows : List (List Char)} {added : List AddedLine}
    (h : ∀ file, Reads (Between file) rows added (Between file)) : Reads Idle rows added Idle := by
  intro c hc
  obtain ⟨c', hc', hrows⟩ := h c.file c hc
  exact ⟨c', hc'.idle, hrows⟩

theorem reads_openingRow (f : FileDiff) : Reads Idle [f.openingRow] [] Idle := by
  refine Reads.quiet fun c hc => ?_
  obtain ⟨file, hfile⟩ := readHeader_openingRow c f
  rw [hc.advance, hfile]
  refine ⟨_, ?_, rfl⟩
  exact ⟨rfl, hc.2⟩

/-- Extended header lines change nothing. -/
theorem reads_extended (file : Option (List Char)) (headers : List ExtendedHeader) :
    Reads (Between file) (headers.map ExtendedHeader.row) [] (Between file) := by
  induction headers with
  | nil => exact Reads.nil fun _ hc => hc
  | cons h headers ih =>
    have hrow : Reads (Between file) [h.row] [] (Between file) := by
      refine Reads.quiet fun c hc => ⟨c, hc, ?_⟩
      rw [hc.advance, readHeader_extended]
    exact hrow.append ih

/-- The names of both sides set the cursor to the file, unless it is deleted. -/
theorem reads_names (f : FileDiff) :
    Reads Idle [f.oldNameRow, f.newNameRow] []
      (Between (if f.deleted then none else some f.newPath.chars)) := by
  have hold : Reads Idle [f.oldNameRow] [] Idle := by
    refine Reads.quiet fun c hc => ⟨c, hc, ?_⟩
    rw [hc.advance, readHeader_oldNameRow]
  have hnew : Reads Idle [f.newNameRow] []
      (Between (if f.deleted then none else some f.newPath.chars)) := by
    refine Reads.quiet fun c hc => ?_
    rw [hc.advance, readHeader_newNameRow]
    refine ⟨_, ?_, rfl⟩
    exact ⟨rfl, hc.2⟩
  exact hold.append hnew

theorem reads_headerRows (f : FileDiff) : Reads Idle
    (f.openingRow :: f.headers.map ExtendedHeader.row) [] Idle :=
  (reads_openingRow f).append (Reads.ofBetween fun file => reads_extended file f.headers)

/-- The lines that are reported for a file are those of its excerpts. -/
theorem added_eq_addedTo (f : FileDiff) :
    f.added = addedTo (if f.deleted then none else some f.newPath.chars)
      (insertedFrom 0 (f.cut.excerpts.flatMap Excerpt.edits)) := by
  rw [FileDiff.added, FileDiff.inserted, FileDiff.script, Cut.script, insertedFrom_append,
    insertedFrom_kept, List.append_nil]
  cases f.deleted <;> rfl

/-- **A file is read as the lines that its script adds.** -/
theorem reads_file (f : FileDiff) : Reads Idle f.rows f.added Idle := by
  have hold := f.oldLength_le
  have hnew := f.newLength_le
  rw [Cut.script, oldLength_append] at hold
  rw [Cut.script, newLength_append] at hnew
  rw [added_eq_addedTo, FileDiff.rows, FileDiff.headerRows]
  by_cases hnamed : f.named = true
  · rw [if_pos hnamed]
    refine ((reads_headerRows f).append (reads_names f)).append ?_
    exact (reads_excerpts _ f.cut.excerpts (by omega) (by omega)).mono (fun _ hc => hc)
      fun _ hc => hc.idle
  · have hempty : f.cut.excerpts = [] :=
      Classical.byContradiction fun hne => hnamed (f.named_of_excerpts hne)
    rw [if_neg hnamed, hempty, List.flatMap_nil, insertedFrom_nil, addedTo_nil, List.append_nil,
      Excerpt.rowsFrom, List.append_nil]
    exact reads_headerRows f

/-- A diff of rows that are read to their end adds what they are read as. -/
theorem Reads.addedLines_unlines {rows : List (List Char)} {added : List AddedLine}
    {Q : Cursor → Prop} (h : Reads Idle rows added Q) (hrows : ∀ row ∈ rows, '\n' ∉ row) :
    Diff.addedLines (unlines rows) = added := by
  obtain ⟨c, -, hread⟩ := h .start ⟨rfl, rfl, rfl⟩
  have hend := hread []
  rw [List.append_nil, ← lines_unlines hrows, Cursor.addedLines, List.append_nil] at hend
  exact hend

/-- A diff is read file by file. -/
theorem reads_files (files : List FileDiff) :
    Reads Idle (files.flatMap FileDiff.rows) (files.flatMap FileDiff.added) Idle := by
  induction files with
  | nil => exact Reads.nil fun _ hc => hc
  | cons f files ih => exact (reads_file f).append ih

end Cursor

end RuleDelta.Diff

import Mathlib.Data.List.Forall2
import RuleDelta.Proofs.Diff.Reading
import RuleDelta.Proofs.Diff.Table

/-!
# The added lines of a diff are read back

A diff is read as the lines that the scripts of its files insert, each with its number in the new
file. What the lines say and how the scripts are cut into hunks has no part in this.

* `addedLines_render_eq` says it of the added lines, `mem_addedByFile_render` of their table;
* `ReadBack` says it of both and of all cuts, and `readBack_of_apart` proves it.
-/

namespace RuleDelta.Diff

open Text

/-! ## The lines of a diff -/

theorem newline_not_mem_editRows {e : Edit} : ∀ row ∈ e.rows, '\n' ∉ row := by
  have hsign : '\n' ≠ e.sign.char := by cases e.sign <;> decide
  have hmark : '\n' ∉ unendedRow := by decide
  unfold Edit.rows
  split <;> simp [hsign, hmark, e.text.unbroken]

theorem newline_not_mem_rowsFrom (old new : Nat) (xs : List Excerpt) :
    ∀ row ∈ Excerpt.rowsFrom old new xs, '\n' ∉ row := by
  induction xs generalizing old new with
  | nil => simp [Excerpt.rowsFrom]
  | cons x xs ih =>
    have hspan := not_mem_spanText (c := '\n') (by decide) (by decide)
    simp only [Excerpt.rowsFrom, List.mem_append, List.mem_cons, List.mem_flatMap]
    rintro row ((rfl | ⟨e, -, hrow⟩) | hrow)
    · simp [Excerpt.headerRow, hunkRow_eq, hspan, x.heading.unbroken]
    · exact newline_not_mem_editRows row hrow
    · exact ih _ _ row hrow

theorem newline_not_mem_rows (f : FileDiff) : ∀ row ∈ f.rows, '\n' ∉ row := by
  have hold := f.oldPath.not_mem (c := '\n') (by decide)
  have hnew := f.newPath.not_mem (c := '\n') (by decide)
  have hkeyword : ∀ keyword ∈ headerKeywords, '\n' ∉ keyword := by decide
  have hopening : '\n' ∉ f.openingRow := by
    simp [f.openingRow_eq, hold, hnew]
  have hnames : '\n' ∉ f.oldNameRow ∧ '\n' ∉ f.newNameRow := by
    unfold FileDiff.oldNameRow FileDiff.newNameRow
    cases f.created <;> cases f.deleted <;> simp [hold, hnew]
  simp only [FileDiff.rows, FileDiff.headerRows, List.cons_append, List.mem_cons, List.mem_append,
    List.mem_map]
  rintro row (rfl | (⟨h, -, rfl⟩ | hrow) | hrow)
  · exact hopening
  · simp [ExtendedHeader.row, hkeyword _ h.known, h.text.unbroken]
  · split at hrow
    · simp only [List.mem_cons, List.not_mem_nil, or_false] at hrow
      rcases hrow with rfl | rfl
      · exact hnames.1
      · exact hnames.2
    · cases hrow
  · exact newline_not_mem_rowsFrom _ _ _ row hrow

/-- **A diff is read as the lines that its files add**, file by file and in order. -/
theorem addedLines_render_eq (files : List FileDiff) :
    addedLines (render files) = files.flatMap FileDiff.added := by
  refine (Cursor.reads_files files).addedLines_unlines fun row hrow => ?_
  obtain ⟨f, -, hrow⟩ := List.mem_flatMap.mp hrow
  exact newline_not_mem_rows f row hrow

/-! ## The table of a diff -/

namespace FileDiff

/-- Two files have different paths, unless one of them is deleted. -/
def Apart (f g : FileDiff) : Prop :=
  f.deleted = false → g.deleted = false → f.path ≠ g.path

instance : Std.Symm Apart where
  symm _ _ h hg hf heq := h hf hg heq.symm

theorem addedNumbers_ascending (f : FileDiff) : f.addedNumbers.Pairwise (· < ·) := by
  unfold addedNumbers inserted
  split
  · exact .nil
  · refine List.Pairwise.sublist (List.filter_sublist.map Prod.snd) ?_
    rw [List.zipIdx_map_snd]
    exact List.pairwise_lt_range'

theorem deleted_eq_false_of_mem_added {f : FileDiff} {a : AddedLine} (h : a ∈ f.added) :
    f.deleted = false := by
  by_contra hdeleted
  rw [added, inserted, if_pos (by simpa using hdeleted)] at h
  cases h

theorem mem_addedNumbers {f : FileDiff} {line : Nat} :
    line ∈ f.addedNumbers ↔ ∃ a ∈ f.added, a.line = line := by
  have hmap : f.added.map AddedLine.line = f.addedNumbers := List.map_map
  rw [← hmap, List.mem_map]

theorem file_eq_of_mem_added {f : FileDiff} {a : AddedLine} (h : a ∈ f.added) :
    a.file = f.path := by
  obtain ⟨⟨e, n⟩, -, rfl⟩ := List.mem_map.mp h
  rfl

/-- The lines that a diff adds under the path of one of its files are those of this file. -/
theorem mem_addedNumbers_iff {files : List FileDiff} (hapart : files.Pairwise Apart)
    {f : FileDiff} (hf : f ∈ files) (hdeleted : f.deleted = false) (line : Nat) :
    line ∈ f.addedNumbers ↔ ∃ a ∈ files.flatMap added, a.file = f.path ∧ a.line = line := by
  rw [mem_addedNumbers]
  constructor
  · rintro ⟨a, ha, hline⟩
    exact ⟨a, List.mem_flatMap.mpr ⟨f, hf, ha⟩, file_eq_of_mem_added ha, hline⟩
  · rintro ⟨a, ha, hfile, hline⟩
    obtain ⟨g, hg, ha⟩ := List.mem_flatMap.mp ha
    have heq : f = g := by
      by_contra hne
      refine hapart.forall hf hg hne hdeleted (deleted_eq_false_of_mem_added ha) ?_
      rw [← hfile, file_eq_of_mem_added ha]
    exact ⟨a, heq ▸ ha, hline⟩

end FileDiff

/-! ## Reading back -/

/-- What is read from the diff of these files is what their scripts add. -/
structure ReadBack (files : List FileDiff) : Prop where
  /-- The added lines are those of the files that are not deleted, in order. -/
  added : addedLines (render files) = files.flatMap FileDiff.added
  /-- The table has one row for each path. -/
  paths : (addedByFile (render files)).Pairwise fun row row' => row.1 < row'.1
  /-- The rows of the table are the added lines of the files that have any. -/
  rows : ∀ path numbers, (path, numbers) ∈ addedByFile (render files) ↔
    ∃ f ∈ files, f.path = path ∧ f.addedNumbers = numbers ∧ numbers ≠ []
  ascending : ∀ f ∈ files, f.addedNumbers.Pairwise (· < ·)
  /-- Files that agree with these are read alike, however they are presented. -/
  agrees : ∀ files', List.Forall₂ FileDiff.Agrees files files' →
    addedLines (render files') = addedLines (render files) ∧
      addedByFile (render files') = addedByFile (render files)
  /-- So the number of kept lines around a change does not count. -/
  context : ∀ n,
    addedLines (render (files.map (FileDiff.withContext n))) = addedLines (render files) ∧
      addedByFile (render (files.map (FileDiff.withContext n))) = addedByFile (render files)

/-- The table of a diff has the added lines of its files for its rows. -/
theorem mem_addedByFile_render {files : List FileDiff} (hapart : files.Pairwise FileDiff.Apart)
    (path : String) (numbers : List Nat) :
    (path, numbers) ∈ addedByFile (render files) ↔
      ∃ f ∈ files, f.path = path ∧ f.addedNumbers = numbers ∧ numbers ≠ [] := by
  have htable := tabulates_addedByFile (render files)
  rw [addedLines_render_eq] at htable
  constructor
  · intro hrow
    obtain ⟨line, hline⟩ := List.exists_mem_of_ne_nil _ (htable.nonempty _ hrow)
    obtain ⟨a, ha, rfl, -⟩ := (htable.mem_row hrow line).mp hline
    obtain ⟨f, hf, ha⟩ := List.mem_flatMap.mp ha
    have hdeleted := FileDiff.deleted_eq_false_of_mem_added ha
    rw [FileDiff.file_eq_of_mem_added ha] at hrow
    have hmem := FileDiff.mem_addedNumbers_iff hapart hf hdeleted
    obtain ⟨rfl, hne⟩ := (htable.mem_iff f.addedNumbers_ascending hmem).mp hrow
    exact ⟨f, hf, (FileDiff.file_eq_of_mem_added ha).symm, rfl, hne⟩
  · rintro ⟨f, hf, rfl, rfl, hne⟩
    obtain ⟨line, hline⟩ := List.exists_mem_of_ne_nil _ hne
    obtain ⟨a, ha, -⟩ := FileDiff.mem_addedNumbers.mp hline
    have hmem := FileDiff.mem_addedNumbers_iff hapart hf (FileDiff.deleted_eq_false_of_mem_added ha)
    exact (htable.mem_iff f.addedNumbers_ascending hmem).mpr ⟨rfl, hne⟩

/-- Files that agree are read alike. -/
theorem read_eq_of_agrees {files files' : List FileDiff}
    (h : List.Forall₂ FileDiff.Agrees files files') :
    addedLines (render files') = addedLines (render files) ∧
      addedByFile (render files') = addedByFile (render files) := by
  have hadded : addedLines (render files') = addedLines (render files) := by
    rw [addedLines_render_eq, addedLines_render_eq]
    induction h with
    | nil => rfl
    | cons hfg _ ih => rw [List.flatMap_cons, List.flatMap_cons, ih, hfg.added_eq]
  exact ⟨hadded, by rw [addedByFile, hadded, ← addedByFile]⟩

/-- **A diff is read back.** Whatever its cut, its headers and the content of its lines, the added
lines are those that the scripts of its files insert. -/
theorem readBack_of_apart {files : List FileDiff} (h : files.Pairwise FileDiff.Apart) :
    ReadBack files where
  added := addedLines_render_eq files
  paths := (tabulates_addedByFile _).files
  rows := mem_addedByFile_render h
  ascending f _ := f.addedNumbers_ascending
  agrees _ := read_eq_of_agrees
  context n := by
    refine read_eq_of_agrees ?_
    rw [List.forall₂_map_right_iff]
    exact List.forall₂_same.mpr fun f _ => f.agrees_withContext n

theorem index_mem_headerKeywords : "index ".toList ∈ headerKeywords := by
  decide

/-- The change of a file, with lines that look like headers. -/
def lookalikeCut : Cut where
  excerpts :=
    [{ hidden := KeptLines.none.push ⟨.kept, .ofString "first", false⟩ rfl
       shown :=
        [⟨.deleted, .ofString "-- a/x", false⟩, ⟨.inserted, .ofString "++ b/x", false⟩,
          ⟨.kept, .ofString "@@ -1 +1 @@", false⟩,
          ⟨.inserted, .ofString "diff --git a/x b/x", true⟩]
       heading := .ofString " @@ -9 +9 @@"
       oldShort := true
       newShort := true }]
  tail := .none

/-- The end of a file, with a line that looks like a header. -/
def lookalikeEnd : Cut where
  excerpts :=
    [{ hidden := .none
       shown := [⟨.deleted, .ofString "++ b/c", true⟩]
       heading := .ofString ""
       oldShort := true
       newShort := true }]
  tail := .none

/-- Two files whose lines look like headers: one is changed, and one is deleted. -/
def lookalikes : List FileDiff :=
  [{ oldPath := .ofString "a b"
     newPath := .ofString "a b"
     created := false
     deleted := false
     headers := [⟨"index ".toList, index_mem_headerKeywords, .ofString "1..2 100644"⟩]
     named := true
     cut := lookalikeCut
     named_of_excerpts := fun _ => rfl
     oldLength_le := Nat.le_of_ble_eq_true rfl
     newLength_le := Nat.le_of_ble_eq_true rfl },
    { oldPath := .ofString "c"
      newPath := .ofString "c"
      created := false
      deleted := true
      headers := []
      named := true
      cut := lookalikeEnd
      named_of_excerpts := fun _ => rfl
      oldLength_le := Nat.le_of_ble_eq_true rfl
      newLength_le := Nat.le_of_ble_eq_true rfl }]

theorem readBack_lookalikes : lookalikes.Pairwise FileDiff.Apart ∧ ReadBack lookalikes := by
  have h : lookalikes.Pairwise FileDiff.Apart := by
    simp [lookalikes, FileDiff.Apart]
  exact ⟨h, readBack_of_apart h⟩

example : lookalikes.map FileDiff.addedNumbers = [[2, 4], []] := by decide

end RuleDelta.Diff

import RuleDelta.Diff.AddedLine
import RuleDelta.Proofs.Text.Rows
import RuleDelta.Proofs.Text.Split

/-!
# A file header starts a diff afresh

A cursor carries five things from line to line, and a file header sets all of them, also in the
middle of a hunk that lacks lines (`Cursor.advance_fileHeader`). So nothing that stands in front of
a file in a diff has a part in how the file is read, be it well-formed or not
(`addedLines_append_of_fileHeader`).
-/

namespace RuleDelta.Diff

open Text

/-- What starts the header of a file. -/
def fileHeader : List Char :=
  "diff --git ".toList

namespace Cursor

/-- The cursor behind some lines. -/
def behind (c : Cursor) (rows : List (List Char)) : Cursor :=
  rows.foldl (fun c row => (c.advance row).1) c

/-- Lines are read one stretch after the other. -/
theorem addedLines_append (c : Cursor) (xs ys : List (List Char)) :
    c.addedLines (xs ++ ys) = c.addedLines xs ++ (c.behind xs).addedLines ys := by
  induction xs generalizing c with
  | nil => rfl
  | cons x xs ih =>
    simp only [List.cons_append, addedLines, ih, List.append_assoc]
    rfl

theorem readHeader_fileHeader (c : Cursor) (paths : List Char) :
    c.readHeader (fileHeader ++ paths) = { c with file := readHeaderPath? paths, line := 0 } := by
  unfold readHeader fileHeader
  rw [dropWord?_append]

/-- **Behind a file header all cursors are alike**, whatever they have read and whether or not their
hunk has lines left. -/
theorem advance_fileHeader (c : Cursor) (paths : List Char) :
    c.advance (fileHeader ++ paths) =
      ({ file := readHeaderPath? paths, line := 0, oldLeft := 0, newLeft := 0 }, none) := by
  by_cases hunk : c.inHunk = true
  · -- the header is no content of the hunk, so the hunk ends here
    have hend : c.advance (fileHeader ++ paths) =
        ({ c with oldLeft := 0, newLeft := 0 }.readHeader (fileHeader ++ paths), none) := by
      unfold advance
      rw [if_pos hunk]
      rfl
    rw [hend, readHeader_fileHeader]
  · have hleft : c.oldLeft = 0 ∧ c.newLeft = 0 := by
      simpa [inHunk] using hunk
    unfold advance
    rw [if_neg hunk, readHeader_fileHeader, hleft.1, hleft.2]

/-- From a file header on all cursors read the same. -/
theorem addedLines_fileHeader (c d : Cursor) (paths : List Char) (rows : List (List Char)) :
    c.addedLines ((fileHeader ++ paths) :: rows) =
      d.addedLines ((fileHeader ++ paths) :: rows) := by
  rw [addedLines, addedLines, advance_fileHeader, advance_fileHeader]

end Cursor

/-- **The files of a diff are read apart.** Behind any text whose last line is ended, a diff that
starts with a file header adds the lines that it adds on its own. -/
theorem addedLines_append_of_fileHeader {front back : List Char}
    (hfront : front = [] ∨ front.getLast? = some '\n') (hback : fileHeader <+: back) :
    addedLines (front ++ back) = addedLines front ++ addedLines back := by
  obtain ⟨s, rfl⟩ := hback
  have hne : fileHeader ≠ [] := by decide
  obtain ⟨paths, rows, hlines⟩ := exists_lines_word hne (by decide) (by decide) s
  have hback := Cursor.addedLines_fileHeader (Cursor.start.behind (lines front)) .start paths rows
  rw [addedLines, addedLines, addedLines, lines_append hfront, Cursor.addedLines_append, hlines,
    hback]

/-- A file whose hunk announces nine lines and has two, one of them like the header of a file. -/
def shortFile : List Char :=
  "diff --git a/a b/a\n+++ b/a\n@@ -1,9 +1,9 @@\n+x\n diff --git a/q b/q\n".toList

/-- A file with an added line. -/
def plainFile : List Char :=
  "diff --git a/b b/b\n+++ b/b\n@@ -0,0 +4 @@\n+y\n".toList

theorem addedLines_shortFile_plainFile :
    (shortFile = [] ∨ shortFile.getLast? = some '\n') ∧ fileHeader <+: plainFile ∧
      addedLines (shortFile ++ plainFile) = [⟨"a", 1, "x"⟩, ⟨"b", 4, "y"⟩] := by
  have hfront : shortFile = [] ∨ shortFile.getLast? = some '\n' := .inr (by decide)
  have hback : fileHeader <+: plainFile := by decide
  have hshort : addedLines shortFile = [⟨"a", 1, "x"⟩] := by decide
  have hplain : addedLines plainFile = [⟨"b", 4, "y"⟩] := by decide
  refine ⟨hfront, hback, ?_⟩
  rw [addedLines_append_of_fileHeader hfront hback, hshort, hplain]
  rfl

end RuleDelta.Diff

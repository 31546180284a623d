import RuleDelta.Diff.AddedLine
import RuleDelta.Proofs.Text.Rows

/-!
# Unified diffs as they are written

A file of a diff is an edit script, of which the diff shows stretches. The lines between them are
kept lines, and how many of these are shown around the changes is a matter of presentation.

* `Edit` is a line of an edit script, and `Cut` is a script in stretches;
* `FileDiff` is a file with its script, its cut and its headers, and `render` writes a diff;
* `FileDiff.added` are the lines that a file's script adds to it, whatever its cut;
* `FileDiff.withContext` cuts a file anew, with a number of kept lines around each change.
-/

namespace RuleDelta.Diff

open Text

/-! ## Edit scripts -/

/-- A text that stands on one line. -/
structure LineText where
  chars : List Char
  unbroken : '\n' ∉ chars

theorem newline_not_mem_filter (s : List Char) : '\n' ∉ s.filter (· != '\n') := by
  simp

/-- The text without its line feeds. -/
def LineText.ofString (s : String) : LineText where
  chars := s.toList.filter (· != '\n')
  unbroken := newline_not_mem_filter _

/-- What becomes of a line. -/
inductive Sign
  | kept
  | deleted
  | inserted
  deriving DecidableEq

namespace Sign

/-- The character in front of a line of a hunk. -/
def char : Sign → Char
  | kept => ' '
  | deleted => '-'
  | inserted => '+'

/-- Whether the line is one of the old file. -/
def isOld : Sign → Bool
  | kept | deleted => true
  | inserted => false

/-- Whether the line is one of the new file. -/
def isNew : Sign → Bool
  | kept | inserted => true
  | deleted => false

end Sign

/-- A line of an edit script. -/
structure Edit where
  sign : Sign
  text : LineText
  /-- Whether the line ends its file without a line feed. -/
  unended : Bool

/-- The number of lines of the old file in an edit script. -/
def oldLength (script : List Edit) : Nat :=
  script.countP fun e => e.sign.isOld

/-- The number of lines of the new file in an edit script. -/
def newLength (script : List Edit) : Nat :=
  script.countP fun e => e.sign.isNew

/-- The lines of the new file behind the first `before` ones, each with its number, of which the
inserted ones. -/
def insertedFrom (before : Nat) (script : List Edit) : List (Edit × Nat) :=
  ((script.filter fun e => e.sign.isNew).zipIdx (before + 1)).filter fun p =>
    p.1.sign = .inserted

/-! ## Cuts -/

/-- Kept lines of an edit script, which a diff can hide. -/
structure KeptLines where
  edits : List Edit
  kept : ∀ e ∈ edits, e.sign = .kept

/-- A stretch of an edit script that a diff shows as a hunk. -/
structure Excerpt where
  /-- The kept lines in front that are not shown. -/
  hidden : KeptLines
  shown : List Edit
  /-- What stands behind the closing signs of the header. -/
  heading : LineText
  /-- Whether an old length of one is left out. -/
  oldShort : Bool
  /-- Whether a new length of one is left out. -/
  newShort : Bool

/-- An edit script in stretches, and the kept lines behind the last of them. -/
structure Cut where
  excerpts : List Excerpt
  tail : KeptLines

/-- The lines that an excerpt stands for, the hidden ones among them. -/
def Excerpt.edits (x : Excerpt) : List Edit :=
  x.hidden.edits ++ x.shown

/-- The edit script that was cut. -/
def Cut.script (c : Cut) : List Edit :=
  c.excerpts.flatMap Excerpt.edits ++ c.tail.edits

/-! ## Files -/

/-- Whether a character of a path needs no quotes. -/
def isPlain (c : Char) : Bool :=
  c != '"' && c != '\\' && Nat.ble 0x20 c.toNat && c.toNat != 0x7F

/-- A path that is written without quotes. -/
structure PlainPath where
  chars : List Char
  plain : ∀ c ∈ chars, isPlain c = true

theorem isPlain_of_mem_filter (s : List Char) : ∀ c ∈ s.filter isPlain, isPlain c = true :=
  fun _ hc => (List.mem_filter.mp hc).2

/-- The path without the characters that need quotes. -/
def PlainPath.ofString (s : String) : PlainPath where
  chars := s.toList.filter isPlain
  plain := isPlain_of_mem_filter _

/-- The words that open an extended header line. -/
def headerKeywords : List (List Char) :=
  ["old mode ", "new mode ", "deleted file mode ", "new file mode ", "copy from ", "copy to ",
    "rename from ", "rename to ", "similarity index ", "dissimilarity index ", "index "].map
    String.toList

/-- An extended header line. -/
structure ExtendedHeader where
  keyword : List Char
  known : keyword ∈ headerKeywords
  text : LineText

/-- A file of a diff. Its lines are numbered with machine words. -/
structure FileDiff where
  oldPath : PlainPath
  newPath : PlainPath
  created : Bool
  deleted : Bool
  headers : List ExtendedHeader
  /-- Whether the names of both sides are written. -/
  named : Bool
  cut : Cut
  named_of_excerpts : cut.excerpts ≠ [] → named = true
  oldLength_le : oldLength cut.script ≤ wordMax
  newLength_le : newLength cut.script ≤ wordMax

namespace FileDiff

/-- The path of the file at the newer side. -/
def path (f : FileDiff) : String :=
  String.ofList f.newPath.chars

/-- The edit script of the file. -/
def script (f : FileDiff) : List Edit :=
  f.cut.script

/-- The inserted lines of the file with their numbers in the new file, unless it is deleted. -/
def inserted (f : FileDiff) : List (Edit × Nat) :=
  if f.deleted then [] else insertedFrom 0 f.script

/-- The lines that the file's script adds to it. -/
def added (f : FileDiff) : List AddedLine :=
  f.inserted.map fun (e, n) => ⟨f.path, n, String.ofList (dropReturn e.text.chars)⟩

/-- The numbers of the lines that the file's script adds to it. -/
def addedNumbers (f : FileDiff) : List Nat :=
  f.inserted.map Prod.snd

/-- Two files agree when they differ in their presentation at most. -/
structure Agrees (f g : FileDiff) : Prop where
  path : f.path = g.path
  deleted : f.deleted = g.deleted
  script : f.script = g.script

end FileDiff

/-! ## Rows -/

/-- The row behind a line that ends its file without a line feed. -/
def unendedRow : List Char :=
  "\\ No newline at end of file".toList

/-- The rows of a line of a hunk. -/
def Edit.rows (e : Edit) : List (List Char) :=
  (e.sign.char :: e.text.chars) :: if e.unended then [unendedRow] else []

/-- The start of one side of a hunk, behind so many lines. A side without lines starts at the line
in front of it. -/
def spanStart (before length : Nat) : Nat :=
  if length = 0 then before else before + 1

/-- The start and the length of one side of a hunk. -/
def spanText (before length : Nat) (short : Bool) : List Char :=
  Nat.toDigits 10 (spanStart before length) ++
    if short && length == 1 then [] else ',' :: Nat.toDigits 10 length

/-- The header of a hunk with these texts for its spans. -/
def hunkRow (old new heading : List Char) : List Char :=
  ["@@ -".toList, old, " +".toList, new, " @@".toList, heading].flatten

namespace Excerpt

/-- The header of a hunk behind so many lines of the old file and of the new one. -/
def headerRow (x : Excerpt) (old new : Nat) : List Char :=
  hunkRow (spanText (old + oldLength x.hidden.edits) (oldLength x.shown) x.oldShort)
    (spanText (new + newLength x.hidden.edits) (newLength x.shown) x.newShort) x.heading.chars

/-- The rows of the hunks behind so many lines of the old file and of the new one. -/
def rowsFrom (old new : Nat) : List Excerpt → List (List Char)
  | [] => []
  | x :: xs =>
    x.headerRow old new :: x.shown.flatMap Edit.rows ++
      rowsFrom (old + oldLength x.edits) (new + newLength x.edits) xs

end Excerpt

/-- An extended header line as it is written. -/
def ExtendedHeader.row (h : ExtendedHeader) : List Char :=
  h.keyword ++ h.text.chars

namespace FileDiff

/-- The row that opens the file. -/
def openingRow (f : FileDiff) : List Char :=
  ["diff --git a/".toList, f.oldPath.chars, " b/".toList, f.newPath.chars].flatten

/-- The row with the name of the old side. -/
def oldNameRow (f : FileDiff) : List Char :=
  "--- ".toList ++ if f.created then "/dev/null".toList else "a/".toList ++ f.oldPath.chars

/-- The row with the name of the new side. -/
def newNameRow (f : FileDiff) : List Char :=
  "+++ ".toList ++ if f.deleted then "/dev/null".toList else "b/".toList ++ f.newPath.chars

/-- The rows in front of the first hunk. -/
def headerRows (f : FileDiff) : List (List Char) :=
  f.openingRow :: f.headers.map ExtendedHeader.row ++
    if f.named then [f.oldNameRow, f.newNameRow] else []

/-- The rows of the file. -/
def rows (f : FileDiff) : List (List Char) :=
  f.headerRows ++ Excerpt.rowsFrom 0 0 f.cut.excerpts

end FileDiff

/-- The diff of these files. -/
def render (files : List FileDiff) : List Char :=
  unlines (files.flatMap FileDiff.rows)

/-! ## Context -/

namespace KeptLines

/-- No lines. -/
def none : KeptLines where
  edits := []
  kept := by simp

/-- One more kept line. -/
def push (k : KeptLines) (e : Edit) (h : e.sign = .kept) : KeptLines where
  edits := k.edits ++ [e]
  kept := by simpa [or_imp, forall_and, h] using k.kept

end KeptLines

/-- The stretches of these lines, the shown ones in front of them not yet part of one. -/
def Cut.closeExcerpt (hidden : KeptLines) (shown : List Edit) (c : Cut) : Cut where
  excerpts := ⟨hidden, shown, ⟨[], by simp⟩, true, true⟩ :: c.excerpts
  tail := c.tail

/-- The script cut so that each change shows `n` kept lines before and behind it. The lines in
`hidden` and `shown` are those since the last stretch, and `left` kept lines of the last change are
still to be shown. -/
def cutFrom (n : Nat) (hidden : KeptLines) (shown : List Edit) (left : Nat) : List Edit → Cut
  | [] => if shown.isEmpty then ⟨[], hidden⟩ else .closeExcerpt hidden shown ⟨[], .none⟩
  | e :: script =>
    if h : e.sign = .kept then
      if left = 0 ∧ ∀ d ∈ script.take n, d.sign = .kept then
        if shown.isEmpty then cutFrom n (hidden.push e h) [] 0 script
        else .closeExcerpt hidden shown (cutFrom n (KeptLines.none.push e h) [] 0 script)
      else cutFrom n hidden (shown ++ [e]) (left - 1) script
    else cutFrom n hidden (shown ++ [e]) n script

theorem Cut.script_closeExcerpt (hidden : KeptLines) (shown : List Edit) (c : Cut) :
    (closeExcerpt hidden shown c).script = hidden.edits ++ shown ++ c.script := by
  simp [script, closeExcerpt, Excerpt.edits]

/-- Cutting loses no line of the script. -/
theorem script_cutFrom (n : Nat) (hidden : KeptLines) (shown : List Edit) (left : Nat)
    (script : List Edit) :
    (cutFrom n hidden shown left script).script = hidden.edits ++ shown ++ script := by
  induction script generalizing hidden shown left with
  | nil =>
    unfold cutFrom
    split
    · simp_all [Cut.script]
    · rw [Cut.script_closeExcerpt]
      simp [Cut.script, KeptLines.none]
  | cons e script ih =>
    unfold cutFrom
    split
    · split
      · split
        · rename_i hempty
          simp [ih, KeptLines.push, List.isEmpty_iff.mp hempty]
        · simp [ih, Cut.script_closeExcerpt, KeptLines.push, KeptLines.none]
      · simp [ih]
    · simp [ih]

/-- The script cut with `n` lines of context. -/
def cutWith (n : Nat) (script : List Edit) : Cut :=
  cutFrom n .none [] 0 script

theorem script_cutWith (n : Nat) (script : List Edit) : (cutWith n script).script = script := by
  simp [cutWith, script_cutFrom, KeptLines.none]

namespace FileDiff

/-- The same file with `n` lines of context around each change. -/
def withContext (n : Nat) (f : FileDiff) : FileDiff where
  oldPath := f.oldPath
  newPath := f.newPath
  created := f.created
  deleted := f.deleted
  headers := f.headers
  named := !(cutWith n f.script).excerpts.isEmpty
  cut := cutWith n f.script
  named_of_excerpts := by simp
  oldLength_le := by
    rw [script_cutWith]
    exact f.oldLength_le
  newLength_le := by
    rw [script_cutWith]
    exact f.newLength_le

theorem agrees_withContext (n : Nat) (f : FileDiff) : f.Agrees (f.withContext n) where
  path := rfl
  deleted := rfl
  script := (script_cutWith n f.script).symm

theorem Agrees.inserted_eq {f g : FileDiff} (h : f.Agrees g) : f.inserted = g.inserted := by
  rw [inserted, inserted, h.deleted, h.script]

theorem Agrees.added_eq {f g : FileDiff} (h : f.Agrees g) : f.added = g.added := by
  rw [added, added, h.inserted_eq, h.path]

end FileDiff

end RuleDelta.Diff

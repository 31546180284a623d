import RuleDelta.Diff.Path
import RuleDelta.LineSet
import RuleDelta.Text.Blank
import RuleDelta.Text.Line
import RuleDelta.Text.Numeral

/-!
# Added lines of a unified diff

A unified diff is read line by line with a `Cursor`: the file that the current hunk belongs to, the
number of its next line, and how many lines the hunk still has on either side. Within a hunk a
line is told by its first character; only behind its last line are headers looked for, so content
that looks like a header is not read as one.

* `Cursor.advance` reads one line;
* `addedLines` are all added lines of a diff;
* `addedByFile` are their numbers by file.
-/

namespace RuleDelta

open Text

/-- A line that a diff adds to a file. -/
structure AddedLine where
  /-- The path of the file. -/
  file : String
  /-- The number of the line in the new file. -/
  line : Nat
  /-- The content of the line. -/
  content : String
  deriving DecidableEq, Repr

namespace Diff

/-- The lengths and the first new line that a hunk header gives. -/
structure Hunk where
  oldLength : Nat
  newStart : Nat
  newLength : Nat
  deriving DecidableEq, Repr

/-- A start and a length, which is one when it is left out. -/
def readSpan? (s : List Char) : Option (Nat × Nat) :=
  match splitFirst? [','] s with
  | some (start, length) => do return (← word? start, ← word? length)
  | none => do return (← word? s, 1)

/-- The hunk that a line opens. What stands behind the closing signs is ignored. -/
def readHunk? (line : List Char) : Option Hunk := do
  let rest ← dropWord? "@@ ".toList line
  let (spans, _) ← splitFirst? " @@".toList rest
  let (old, new) ← splitFirst? [' '] spans
  let (_, oldLength) ← readSpan? (← dropWord? ['-'] old)
  let (newStart, newLength) ← readSpan? (← dropWord? ['+'] (trimStart new))
  return { oldLength, newStart, newLength }

/-- The new path in a file header, given the two paths as they stand there. Paths may hold spaces,
so the last place where the new path can start counts. -/
def readHeaderPath? (paths : List Char) : Option (List Char) :=
  if paths.getLast? = some '"' then do
    let (_, path) ← splitLast? " \"b/".toList paths
    dropWord? "b/".toList (Path.unquote ("\"b/".toList ++ path))
  else do
    let (_, path) ← splitLast? " b/".toList paths
    return Path.normalize path

/-- Where the reading of a diff stands. -/
structure Cursor where
  /-- The new path of the current file, unless it is deleted or unknown. -/
  file : Option (List Char)
  /-- The number of the next line of the new file. It needs no bound: it starts at a machine word
  (`word?`), and it could pass the largest one only next to the end of a file with 2^64 lines, which
  no memory holds and no header of a real diff speaks of. -/
  line : Nat
  /-- Lines of the old file that the hunk still has. -/
  oldLeft : Nat
  /-- Lines of the new file that the hunk still has. -/
  newLeft : Nat
  deriving DecidableEq, Repr

namespace Cursor

/-- The cursor at the start of a diff. -/
def start : Cursor where
  file := none
  line := 0
  oldLeft := 0
  newLeft := 0

/-- Whether the hunk has lines left. -/
def inHunk (c : Cursor) : Bool :=
  c.oldLeft > 0 || c.newLeft > 0

/-- The cursor behind a line that is no content of a hunk. -/
def readHeader (c : Cursor) (line : List Char) : Cursor :=
  match dropWord? "diff --git ".toList line with
  | some paths => { c with file := readHeaderPath? paths, line := 0 }
  | none =>
    match dropWord? "+++ ".toList line with
    | some path =>
      if path = "/dev/null".toList then { c with file := none }
      else
        match dropWord? "b/".toList (Path.unquote path) with
        | some file => { c with file := some file }
        | none => c
    | none =>
      match readHunk? line with
      | some hunk =>
        { c with line := hunk.newStart, oldLeft := hunk.oldLength, newLeft := hunk.newLength }
      | none => c

/-- The cursor behind a line and what the line adds. A hunk that ends early ends at the first line
that is no content. -/
def advance (c : Cursor) (line : List Char) : Cursor × Option AddedLine :=
  if c.inHunk then
    match line with
    | '+' :: content =>
      ({ c with line := c.line + 1, newLeft := c.newLeft - 1 },
        c.file.map fun file => ⟨String.ofList file, c.line, String.ofList content⟩)
    | '-' :: _ => ({ c with oldLeft := c.oldLeft - 1 }, none)
    | ' ' :: _ =>
      ({ c with line := c.line + 1, oldLeft := c.oldLeft - 1, newLeft := c.newLeft - 1 }, none)
    | '\\' :: _ => (c, none)
    | _ => ({ c with oldLeft := 0, newLeft := 0 }.readHeader line, none)
  else (c.readHeader line, none)

/-- The added lines among lines that are read from this cursor on. -/
def addedLines (c : Cursor) : List (List Char) → List AddedLine
  | [] => []
  | line :: rest =>
    let (c', added?) := c.advance line
    added?.toList ++ c'.addedLines rest

end Cursor

/-- The lines that a diff adds, in its order. -/
def addedLines (diff : List Char) : List AddedLine :=
  Cursor.start.addedLines (lines diff)

/-- The table with one more line under a file. Files ascend, and so do the lines of each. -/
def insertLine (file : String) (line : Nat) :
    List (String × List Nat) → List (String × List Nat)
  | [] => [(file, [line])]
  | (f, ls) :: rest =>
    if file < f then (file, [line]) :: (f, ls) :: rest
    else if file = f then (f, LineSet.insert line ls) :: rest
    else (f, ls) :: insertLine file line rest

/-- The numbers of the lines that a diff adds, by file. -/
def addedByFile (diff : List Char) : List (String × List Nat) :=
  (addedLines diff).foldl (fun table added => insertLine added.file added.line table) []

end Diff

end RuleDelta

import RuleDelta.RuleFile.Scan
import RuleDelta.Text.Utf8

/-!
# Items on their own

When a file as a whole cannot be read, its items may still be. An item is cut out as a text of its
own: the dash is blanked out, comments are dropped, and the indentation that all its lines share is
removed. Indentation is removed as so many bytes, and a line that consists of other white space
than spaces may be cut inside of a character: then there is no such text.
-/

namespace RuleDelta.RuleFile

open Text

/-- The lines of an item with their marks. -/
def linesOf (marked : List (List Char × Bool)) (b : RuleBlock) : List (List Char × Bool) :=
  (marked.drop (b.lines.first - 1)).take (b.lines.last + 1 - b.lines.first)

/-- The first line of an item with its dash blanked out. -/
def blankDash (dash : Nat) (line : List Char) : List Char :=
  List.replicate (dash + 1) ' ' ++ line.drop (dash + 1)

/-- A further line of an item; comments outside of block scalars are dropped. -/
def keepLine (line : List Char × Bool) : List Char :=
  if !line.2 && isBlankOrComment line.1 then [] else line.1

/-- The lines of the text of an item, still indented. -/
def itemLines (dash : Nat) : List (List Char × Bool) → List (List Char)
  | [] => []
  | first :: rest => blankDash dash first.1 :: rest.map keepLine

/-- The indentation that all lines with text share. -/
def commonIndent (lines : List (List Char)) : Nat :=
  (((lines.filter fun line => !allBlank line).map indentOf).min?).getD 0

/-- A line without its first `n` bytes; nothing is left of a shorter one. `none` when the cut falls
inside of a character. -/
def cutLine? (n : Nat) (line : List Char) : Option (List Char) :=
  if Utf8.byteLength line < n then some [] else Utf8.dropBytes? n line

/-- The text of an item, if its lines can be cut. -/
def itemText? (marked : List (List Char × Bool)) (b : RuleBlock) : Option (List Char) := do
  let lines := itemLines b.dash (linesOf marked b)
  let cut ← lines.mapM (cutLine? (commonIndent lines))
  return cut.flatMap fun line => line ++ ['\n']

end RuleDelta.RuleFile

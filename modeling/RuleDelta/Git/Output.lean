import RuleDelta.Text.Blank
import RuleDelta.Text.Line
import RuleDelta.Text.Utf8

/-!
# Output of git

What a command of git printed: the bytes as they are, for the content of files, and the text
without blanks at its ends, for all else.
-/

namespace RuleDelta

open Text

/-- What a command that succeeded printed. -/
structure GitOutput where
  /-- The standard output as a text. -/
  stdout : List Char
  /-- The standard error as a text. -/
  stderr : List Char
  /-- The bytes of the standard output. -/
  raw : List UInt8
  deriving DecidableEq, Repr

namespace GitOutput

/-- The output of a command that printed these bytes. -/
def ofBytes (stdout stderr : List UInt8) : GitOutput where
  stdout := trim (Utf8.decodeLossy stdout)
  stderr := trim (Utf8.decodeLossy stderr)
  raw := stdout

/-- The output of a command that printed this text. -/
def ofText (text : List Char) : GitOutput where
  stdout := trim text
  stderr := []
  raw := Utf8.encode text

/-- Whether nothing but blanks was printed. -/
def isEmpty (o : GitOutput) : Bool :=
  o.stdout.isEmpty

/-- The lines of the standard output that are not empty. -/
def lines (o : GitOutput) : List (List Char) :=
  (Text.lines o.stdout).filter fun line => !line.isEmpty

end GitOutput

end RuleDelta

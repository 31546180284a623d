/-!
# Blank characters

White space as Unicode means it: the characters with the property `White_Space`, and the
removal of such characters from the ends of a text.

* `isBlank` decides the property;
* `trimStart`, `trimEnd` and `trim` cut blanks off the front, the back, and both.
-/

namespace RuleDelta.Text

/-- The characters with the Unicode property `White_Space`. -/
def isBlank (c : Char) : Bool :=
  let n := c.toNat
  (0x09 ≤ n && n ≤ 0x0D) || n == 0x20 || n == 0x85 || n == 0xA0 || n == 0x1680 ||
    (0x2000 ≤ n && n ≤ 0x200A) || n == 0x2028 || n == 0x2029 || n == 0x202F || n == 0x205F ||
    n == 0x3000

/-- The text without the blanks in front. -/
def trimStart (s : List Char) : List Char :=
  s.dropWhile isBlank

/-- The text without the blanks at its end. -/
def trimEnd (s : List Char) : List Char :=
  (s.reverse.dropWhile isBlank).reverse

/-- The text without the blanks at either end. -/
def trim (s : List Char) : List Char :=
  trimEnd (trimStart s)

/-- A text of blanks only. -/
def allBlank (s : List Char) : Bool :=
  s.all isBlank

end RuleDelta.Text

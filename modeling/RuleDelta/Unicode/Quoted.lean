import RuleDelta.Unicode.Property

/-!
# Quoted texts

A text in double quotes, on one line, with escapes for what does not show by itself.
-/

namespace RuleDelta.Unicode

/-- The categories of the characters that do not show. -/
def hiddenCodes : List String :=
  ["Cc", "Cf", "Co", "Zl", "Zp", "Zs"]

/-- Whether a character shows by itself: it has a category of those that show, or is the space, and
it does not extend the character before it. -/
def shows (c : Char) : Bool :=
  if c.toNat < 0x7F then 0x20 ≤ c.toNat
  else !((charsOfCodes hiddenCodes).union unassigned).has c &&
    !(charsOfProperty "Grapheme_Extend").has c

/-- A character of a quoted text. -/
def quotedChar (c : Char) : List Char :=
  match c with
  | '\x00' => ['\\', '0']
  | '\t' => ['\\', 't']
  | '\n' => ['\\', 'n']
  | '\r' => ['\\', 'r']
  | '"' => ['\\', '"']
  | '\\' => ['\\', '\\']
  | _ => if shows c then [c] else "\\u\x7b".toList ++ Nat.toDigits 16 c.toNat ++ ['\x7d']

/-- A text in quotes. -/
def quoted (s : List Char) : List Char :=
  '"' :: s.flatMap quotedChar ++ ['"']

end RuleDelta.Unicode

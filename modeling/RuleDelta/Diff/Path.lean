import RuleDelta.Text.Split
import RuleDelta.Text.Utf8

/-!
# Paths in listings and diffs

A path is printed as it is, or between double quotes with escapes when it holds a double quote, a
backslash or a control character. Bytes are escaped, not characters, so a quoted path is read as
bytes and decoded afterwards.

* `normalize` writes forward slashes;
* `unescape` reads the inside of a quoted path;
* `unquote` reads a path in either form.
-/

namespace RuleDelta.Path

open Text

/-- The path with forward slashes only. -/
def normalize (s : List Char) : List Char :=
  s.map fun c => if c = '\\' then '/' else c

/-- The byte that a backslash and this letter stand for. -/
def letterEscape? (b : UInt8) : Option UInt8 :=
  if b = 0x61 then some 0x07
  else if b = 0x62 then some 0x08
  else if b = 0x74 then some 0x09
  else if b = 0x6E then some 0x0A
  else if b = 0x76 then some 0x0B
  else if b = 0x66 then some 0x0C
  else if b = 0x72 then some 0x0D
  else if b = 0x22 then some 0x22
  else if b = 0x5C then some 0x5C
  else none

/-- The value of an octal digit. -/
def octalDigit? (b : UInt8) : Option Nat :=
  if 0x30 ≤ b && b ≤ 0x37 then some (b.toNat - 0x30) else none

/-- The byte that three octal digits stand for; of a larger number, its low eight bits. -/
def octalByte? (a b c : UInt8) : Option UInt8 := do
  let x ← octalDigit? a
  let y ← octalDigit? b
  let z ← octalDigit? c
  return UInt8.ofNat (x * 64 + y * 8 + z)

/-- The byte that an escape stands for, given what follows its backslash, and the number of bytes
of the escape behind the backslash. -/
def readEscape? : List UInt8 → Option (UInt8 × Nat)
  | [] => none
  | a :: rest =>
    match letterEscape? a with
    | some x => some (x, 1)
    | none =>
      match rest with
      | b :: c :: _ => (octalByte? a b c).map fun x => (x, 3)
      | _ => none

/-- The bytes that the inside of a quoted path stands for, once `skip` bytes of it are passed
over. A backslash that starts no escape stands for itself. -/
def unescapeFrom : Nat → List UInt8 → List UInt8
  | _, [] => []
  | skip + 1, _ :: rest => unescapeFrom skip rest
  | 0, b :: rest =>
    if b = 0x5C then
      match readEscape? rest with
      | some (x, length) => x :: unescapeFrom length rest
      | none => b :: unescapeFrom 0 rest
    else b :: unescapeFrom 0 rest

/-- The bytes that the inside of a quoted path stands for. -/
def unescape (s : List UInt8) : List UInt8 :=
  unescapeFrom 0 s

/-- What stands between a double quote at the start and one at the end. -/
def inQuotes? (s : List Char) : Option (List Char) :=
  (dropWord? ['"'] s).bind (dropWordEnd? ['"'])

/-- The path that a listing or a diff prints. A backslash in an unquoted path is a separator. -/
def unquote (s : List Char) : List Char :=
  match inQuotes? s with
  | none => normalize s
  | some inner => Utf8.decodeLossy (unescape (Utf8.encode inner))

end RuleDelta.Path

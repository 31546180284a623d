import RuleDelta.Text.Utf8
import RuleDelta.Yaml.BlockScalar
import RuleDelta.Yaml.Token

/-!
# Names, tags and directives

The tokens that start with `&`, `*`, `!` and `%`. A tag is a handle and a tail, or stands between
angle brackets as a whole; both may hold bytes that are written with a percent sign.

* `readName` reads the name of an anchor;
* `readTag` reads a tag;
* `readDirective` reads a directive with its line.
-/

namespace RuleDelta.Yaml

open Text

/-- The name at the start of the source. -/
def takeName (s : Source) : List Char × Source :=
  (s.rest.takeWhile isNameChar, s.skipWhile isNameChar)

/-- Whether a name may end in front of this. -/
def endsName (c? : Option Char) : Bool :=
  endsWord c? || c?.any fun c => "?:,]\x7d%@\x60".toList.contains c

/-- The name of an anchor. -/
def readName (s : Source) : Except Error (List Char × Source) :=
  let (name, s') := takeName s
  if name.isEmpty || !endsName s'.peek then s'.fail .anchorName else .ok (name, s')

/-- The handle at the start of the source. In a directive a longer handle has to end with `!`. -/
def readHandle (directive : Bool) (s : Source) : Except Error (List Char × Source) :=
  if s.peek != some '!' then s.fail .tagHandle
  else
    let (name, s') := takeName (s.skip 1)
    if s'.peek == some '!' then .ok ('!' :: name ++ ['!'], s'.skip 1)
    else if directive && !name.isEmpty then s'.fail .tagHandle
    else .ok ('!' :: name, s')

/-- A character of a tag; `whole` for a tag between angle brackets. -/
def isTagChar (whole : Bool) (c : Char) : Bool :=
  isNameChar c || ";/?:@&=+$.%!~*'()".toList.contains c || (whole && ",[]".toList.contains c)

/-- The number of bytes of the character that a byte starts. -/
def leadWidth? (b : Nat) : Option Nat :=
  if b < 0x80 then some 1
  else if b / 0x20 = 0x6 then some 2
  else if b / 0x10 = 0xE then some 3
  else if b / 0x08 = 0x1E then some 4
  else none

/-- The byte that a percent sign and two digits write, if `owed` trailing bytes are due, and how
many are due behind it. -/
def readTagByte (owed : Nat) (rest : List Char) : Option (UInt8 × Nat) := do
  let code := rest.take 2
  let n ← if code.length = 2 then digits? 16 code else none
  if owed = 0 then return (UInt8.ofNat n, (← leadWidth? n) - 1)
  else if n / 0x40 = 0x2 then return (UInt8.ofNat n, owed - 1)
  else none

/-- The bytes of a tag that goes on with the characters given, and how many of these it takes. The
first `skip` characters are passed over, and `owed` trailing bytes are due. -/
def tagFrom (whole : Bool) (skip owed : Nat) (out : List UInt8) (count : Nat) :
    List Char → Except Problem (List UInt8 × Nat)
  | [] => if owed = 0 then .ok (out.reverse, count) else .error .tagEscape
  | c :: rest =>
    match skip with
    | skip + 1 => tagFrom whole skip owed out (count + 1) rest
    | 0 =>
      if c == '%' then
        match readTagByte owed rest with
        | some (b, owed) => tagFrom whole 2 owed (b :: out) (count + 1) rest
        | none => .error .tagEscape
      else if owed ≠ 0 then .error .tagEscape
      else if isTagChar whole c then
        tagFrom whole 0 0 (UInt8.ofNat c.toNat :: out) (count + 1) rest
      else .ok (out.reverse, count)

/-- The bytes of a tag behind those of `lead`; there is at least one. -/
def readTail (whole : Bool) (lead : List Char) (s : Source) :
    Except Error (List UInt8 × Source) :=
  match tagFrom whole 0 0 [] 0 s.rest with
  | .error problem => s.fail problem
  | .ok (bytes, count) =>
    if lead.isEmpty && count = 0 then (s.skip count).fail .tagUri
    else .ok (Utf8.encode (lead.drop 1) ++ bytes, s.skip count)

/-- Whether a handle has a name between two exclamation marks, or nothing between them. -/
def isFullHandle (handle : List Char) : Bool :=
  1 < handle.length && handle.getLast? == some '!'

/-- The tag at the start of the source. -/
def readTag (flow : Bool) (s : Source) : Except Error (Symbol × Source) := do
  let (symbol, s) ←
    if s.rest[1]? == some '<' then do
      let (tail, s) ← readTail true [] (s.skip 2)
      if s.peek == some '>' then pure (Symbol.tag [] tail, s.skip 1) else s.fail .tagEnd
    else do
      let (handle, s) ← readHandle false s
      if isFullHandle handle then do
        let (tail, s) ← readTail false [] s
        pure (Symbol.tag handle tail, s)
      else do
        let (tail, s) ← readTail false handle s
        pure (if tail.isEmpty then Symbol.tag [] [0x21] else Symbol.tag ['!'] tail, s)
  if endsWord s.peek || (flow && s.peek == some ',') then return (symbol, s)
  else s.fail .tagEnd

/-- The number at the start of the source, of at most nine digits. -/
def readVersionNumber (s : Source) : Except Error (Nat × Source) :=
  let code := s.rest.takeWhile Char.isDigit
  match digits? 10 code with
  | some n =>
    if code.length ≤ 9 then .ok (n, s.skip code.length) else (s.skip 9).fail .versionNumber
  | none => s.fail .versionNumber

/-- The value of a directive that states the version. -/
def readVersion (s : Source) : Except Error (Symbol × Source) := do
  let (major, s) ← readVersionNumber (s.skipWhile isSpace)
  if s.peek == some '.' then do
    let (minor, s) ← readVersionNumber (s.skip 1)
    return (.version major minor, s)
  else s.fail .versionNumber

/-- The value of a directive that declares a handle. -/
def readTagDirective (s : Source) : Except Error (Symbol × Source) := do
  let (handle, s) ← readHandle true (s.skipWhile isSpace)
  if !s.peek.any isSpace then s.fail .tagHandleEnd
  else do
    let (lead, s) ← readTail true [] (s.skipWhile isSpace)
    if endsWord s.peek then return (.tagDirective handle lead, s) else s.fail .tagEnd

/-- The directive at the start of the source, behind its percent sign, with its line. -/
def readDirective (s : Source) : Except Error (Symbol × Source) := do
  let (name, s') := takeName s
  if name.isEmpty || !endsWord s'.peek then s'.fail .directiveName
  else do
    let (symbol, s) ←
      if name = "YAML".toList then readVersion s'
      else if name = "TAG".toList then readTagDirective s'
      else s'.fail .unknownDirective
    return (symbol, ← skipLineEnd .directiveEnd s)

end RuleDelta.Yaml

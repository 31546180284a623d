import RuleDelta.Pattern.Basic
import RuleDelta.Pattern.Fault
import RuleDelta.Text.Blank
import RuleDelta.Unicode.Case
import RuleDelta.Unicode.Lookup

/-!
# Escapes of patterns

The flags of a pattern and the constructs that a backslash starts.

* `Flags` are the settings that a pattern can change for parts of itself;
* `readEscape` reads what follows a backslash.
-/

namespace RuleDelta.Pattern

open Text Unicode

/-- The settings of a part of a pattern. -/
structure Flags where
  ignoreCase : Bool
  /-- `^` and `$` hold at every line. -/
  multiLine : Bool
  /-- The dot takes line breaks too. -/
  dotAll : Bool
  /-- Carriage returns end lines too. -/
  crlf : Bool
  /-- Sets of characters go beyond ASCII. -/
  unicode : Bool
  /-- Blanks and comments do not count. -/
  extended : Bool

/-- The settings of a pattern at its start. -/
def Flags.initial : Flags where
  ignoreCase := false
  multiLine := false
  dotAll := false
  crlf := false
  unicode := true
  extended := false

/-- What is left of a text behind the blanks and comments in front. A comment goes from a hash sign
to the end of its line. -/
def skipBlank (comment : Bool) : List Char → List Char
  | [] => []
  | c :: cs =>
    if comment then skipBlank (c != '\n') cs
    else if isBlank c then skipBlank false cs
    else if c = '#' then skipBlank true cs
    else c :: cs

/-- What is left of a text behind what does not count. -/
def Flags.skip (f : Flags) (s : List Char) : List Char :=
  if f.extended then skipBlank false s else s

/-- The text up to a closing brace, without what does not count, and the text behind the brace. -/
def upToBrace? (f : Flags) (comment : Bool) : List Char → Option (List Char × List Char)
  | [] => none
  | c :: cs =>
    if comment then upToBrace? f (c != '\n') cs
    else if f.extended && isBlank c then upToBrace? f false cs
    else if f.extended && c = '#' then upToBrace? f true cs
    else if c = '\x7d' then some ([], cs)
    else (upToBrace? f false cs).map fun (inside, rest) => (c :: inside, rest)

/-- The text behind an opening brace, up to the closing one. -/
def braced? (f : Flags) (s : List Char) : Option (List Char × List Char) :=
  upToBrace? f false s

/-- What one element of a pattern or of a class stands for. -/
inductive Atom
  | char (c : Char)
  | set (set : CharSet)
  | look (look : Look)

/-! ## Sets -/

/-- A set as it stands in a pattern: with both cases of its letters, if case does not count, and
its complement, if it is negated. Without Unicode the set has to be one of ASCII characters. -/
def finishSet (f : Flags) (negated : Bool) (set : CharSet) : Except PatternFault CharSet :=
  let folded := if f.ignoreCase then set.fold else set
  if f.unicode then .ok (if negated then folded.complement else folded)
  else if negated || !set.isAscii then .error .partOfCharacter
  else .ok (folded.inter (.ofRanges [⟨0, 0x7F⟩]))

/-- The set of a letter such as `d`, with its complement for a capital one. -/
def shortSet (f : Flags) (letter : Char) : Except PatternFault CharSet :=
  let set := match letter.toLower, f.unicode with
    | 'd', true => decimalDigits
    | 's', true => whiteSpace
    | 'w', true => wordChars
    | 'd', false => .between '0' '9'
    | 's', false => .ofRanges [⟨0x09, 0x0D⟩, ⟨0x20, 0x20⟩]
    | _, _ => .ofRanges [⟨0x30, 0x39⟩, ⟨0x41, 0x5A⟩, ⟨0x5F, 0x5F⟩, ⟨0x61, 0x7A⟩]
  if !letter.isUpper then .ok set
  else if f.unicode then .ok set.complement
  else .error .partOfCharacter

/-- The set that the text in the braces of a property names. -/
def namedSet? (name : List Char) : Option CharSet :=
  match splitFirst? ['!', '='] name, splitFirst? [':'] name, splitFirst? ['='] name with
  | some (property, value), _, _ => setWhere? property value
  | none, some (property, value), _ => setWhere? property value
  | none, none, some (property, value) => setWhere? property value
  | none, none, none => setNamed? name

/-- Reads the name of a set of Unicode: one letter, or a text in braces. -/
def readNamedSet (f : Flags) (negated : Bool) (s : List Char) :
    Except PatternFault (CharSet × List Char) := do
  let (name, rest) ← match f.skip s with
    | [] => throw .escapeAtEnd
    | '\x7b' :: cs => match braced? f cs with
      | some found => pure found
      | none => throw .escapeAtEnd
    | c :: cs => if c = '\\' then throw .unknownProperty else pure ([c], cs)
  if !f.unicode then throw .unicodeOff
  match namedSet? name with
  | some set => return (← finishSet f negated set, rest)
  | none => throw .unknownProperty

/-! ## Characters by number -/

/-- The character of a number. -/
def charOfCode? (code : Nat) : Option Char :=
  if h : code.isValidChar then some (Char.ofNatAux code h) else none

/-- Reads so many hexadecimal digits. -/
def readDigits (f : Flags) : Nat → List Char → Option (List Char × List Char)
  | 0, s => some ([], s)
  | n + 1, s =>
    match f.skip s with
    | [] => none
    | c :: cs => (readDigits f n cs).map fun (digits, rest) => (c :: digits, rest)

/-- Reads the number of a character: digits in braces, or so many digits. Two digits above `7F` are
a byte when Unicode is off. -/
def readCode (f : Flags) (width : Nat) (s : List Char) : Except PatternFault (Char × List Char) :=
  let found := match f.skip s with
    | '\x7b' :: cs => braced? f cs
    | cs => readDigits f width cs
  match found with
  | none => .error .escapeAtEnd
  | some (digits, rest) =>
    match (digits? 16 digits).bind charOfCode? with
    | none => .error .hexadecimalEscape
    | some c =>
      if !f.unicode && width = 2 && digits.length = 2 && 0x7F < c.toNat && !startsWith s ['\x7b']
      then .error .partOfCharacter
      else .ok (c, rest)

/-! ## Escapes -/

/-- The characters with a meaning of their own. -/
def isMeta (c : Char) : Bool :=
  "\\.+*?()|[]\x7b\x7d^$#&-~".toList.contains c

/-- The characters that stand for themselves behind a backslash. -/
def isEscapable (c : Char) : Bool :=
  isMeta c || (c.toNat < 0x80 && !c.isAlphanum && c != '<' && c != '>')

/-- The condition on words that goes by this name. -/
def wordLook? (name : List Char) : Option WordLook :=
  match String.ofList name with
  | "start" => some .start
  | "end" => some .stop
  | "start-half" => some .startHalf
  | "end-half" => some .stopHalf
  | _ => none

/-- Reads what follows `\b`: the name of a condition in braces, or nothing. Braces that cannot hold
a name are left to be a repetition. -/
def readBoundary (f : Flags) (s : List Char) : Except PatternFault (WordLook × List Char) :=
  match s with
  | '\x7b' :: cs =>
    match braced? f cs with
    | none => .error .wordCondition
    | some (name, rest) =>
      if name.head?.any fun c => c.isAlpha || c == '-' then
        match wordLook? name with
        | some condition => .ok (condition, rest)
        | none => .error .wordCondition
      else .ok (.boundary, s)
  | _ => .ok (.boundary, s)

/-- The characters that a letter stands for behind a backslash. -/
def controlChar? (c : Char) : Option Char :=
  match c with
  | 'a' => some '\x07'
  | 'f' => some '\x0c'
  | 't' => some '\t'
  | 'n' => some '\n'
  | 'r' => some '\r'
  | 'v' => some '\x0b'
  | _ => none

/-- The conditions that a character stands for behind a backslash. -/
def lookOf? (f : Flags) (c : Char) : Option Look :=
  match c with
  | 'A' => some .textStart
  | 'z' => some .textEnd
  | 'B' => some (.word .noBoundary f.unicode)
  | '<' => some (.word .start f.unicode)
  | '>' => some (.word .stop f.unicode)
  | _ => none

/-- Reads what follows a backslash. -/
def readEscape (f : Flags) : List Char → Except PatternFault (Atom × List Char)
  | [] => .error .escapeAtEnd
  | c :: cs =>
    if c.isDigit then .error .backreference
    else if c = 'x' then (readCode f 2 cs).map fun (c, rest) => (.char c, rest)
    else if c = 'u' then (readCode f 4 cs).map fun (c, rest) => (.char c, rest)
    else if c = 'U' then (readCode f 8 cs).map fun (c, rest) => (.char c, rest)
    else if c = 'p' || c = 'P' then
      (readNamedSet f (c = 'P') cs).map fun (set, rest) => (.set set, rest)
    else if "dDsSwW".toList.contains c then (shortSet f c).map fun set => (.set set, cs)
    else if c = 'b' then
      (readBoundary f cs).map fun (condition, rest) => (.look (.word condition f.unicode), rest)
    else if isEscapable c then .ok (.char c, cs)
    else match controlChar? c, lookOf? f c with
      | some c, _ => .ok (.char c, cs)
      | none, some condition => .ok (.look condition, cs)
      | none, none => .error .unknownEscape

end RuleDelta.Pattern

import RuleDelta.Yaml.Error

/-!
# The text that is left

A `Source` is what is left of a text while tokens are read from it, together with its place. This
file also holds the classes of characters that the tokens are made of.
-/

namespace RuleDelta.Yaml

/-- A character that ends a line. -/
def isBreak (c : Char) : Bool :=
  c == '\n' || c == '\r' || c == '\u0085' || c == '\u2028' || c == '\u2029'

/-- A space or a tab. -/
def isSpace (c : Char) : Bool :=
  c == ' ' || c == '\t'

/-- Whether nothing but white space or the end of the text comes next. -/
def endsWord : Option Char → Bool
  | none => true
  | some c => isSpace c || isBreak c

/-- A character of names: letters and digits of ASCII, the dash and the underscore. -/
def isNameChar (c : Char) : Bool :=
  c.isAlphanum || c == '_' || c == '-'

/-- A character that a text may hold as it is. -/
def isAllowed (c : Char) : Bool :=
  let n := c.toNat
  n == 0x09 || n == 0x0A || n == 0x0D || (0x20 ≤ n && n ≤ 0x7E) || n == 0x85 ||
    (0xA0 ≤ n && n ≤ 0xD7FF) || (0xE000 ≤ n && n ≤ 0xFFFD) || (0x10000 ≤ n && n ≤ 0x10FFFF)

/-- What a line break reads as: a line feed, unless it is one of the separators of Unicode. -/
def breakText (c : Char) : Char :=
  if c == '\u2028' || c == '\u2029' then c else '\n'

/-- A carriage return in front of a line feed: the two are one line break. -/
def isSplitReturn (c : Char) (rest : List Char) : Bool :=
  c == '\r' && rest.head? == some '\n'

/-- What is left of a text, and the place where it starts. -/
structure Source where
  rest : List Char
  mark : Mark
  deriving DecidableEq, Repr

namespace Source

/-- The source of a whole text. -/
def ofText (text : List Char) : Source :=
  ⟨text, .start⟩

/-- The next character. -/
def peek (s : Source) : Option Char :=
  s.rest.head?

/-- The source behind `n` characters of the line. -/
def skip (s : Source) (n : Nat) : Source :=
  ⟨s.rest.drop n, s.mark.advance (min n s.rest.length)⟩

/-- The source behind the characters of the line that have the property. -/
def skipWhile (s : Source) (p : Char → Bool) : Source :=
  s.skip (s.rest.takeWhile p).length

/-- The source behind the line break at its start, if there is one. -/
def skipBreak (s : Source) : Source :=
  match s.rest with
  | '\r' :: '\n' :: rest => ⟨rest, s.mark.insideBreak.nextLine⟩
  | c :: rest => if isBreak c then ⟨rest, s.mark.nextLine⟩ else s
  | [] => s

/-- Whether a line starts here with three characters `c` and nothing that belongs to them. -/
def atMarker (s : Source) (c : Char) : Bool :=
  s.mark.column == 0 && s.rest.take 3 == [c, c, c] && endsWord s.rest[3]?

/-- Whether a line starts here that begins or ends a document. -/
def atDocumentMarker (s : Source) : Bool :=
  s.atMarker '-' || s.atMarker '.'

/-- A fault at this place. -/
def fail {α : Type} (s : Source) (problem : Problem) : Except Error α :=
  .error (.atMark problem s.mark)

end Source

/-- A text is read in blocks of so many bytes. -/
def blockBytes : Nat := 16384

/-- Where the block starts that holds the first character that a text may not hold, given the
number of bytes of the current block so far, its start, and the number of characters so far. -/
def unreadableFrom (bytes start count : Nat) : List Char → Option Nat
  | [] => none
  | c :: rest =>
    let full := bytes + c.utf8Size > blockBytes
    let start := if full then count else start
    let bytes := if full then c.utf8Size else bytes + c.utf8Size
    if isAllowed c then unreadableFrom bytes start (count + 1) rest else some start

end RuleDelta.Yaml

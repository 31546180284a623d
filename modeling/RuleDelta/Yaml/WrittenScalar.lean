import RuleDelta.Yaml.Scalar
import RuleDelta.Yaml.Source

/-!
# Writing texts as scalars

A text is written in the plainest style that reads back as the text: bare where nothing in it has a
meaning of its own, in single quotes otherwise, line by line when it has line feeds, and with
escapes when nothing else will do.

* `WrittenStyle.choose` is the style of a text;
* `scalarLines` is the written form of a text as the value of a key or as an item of a list, up to
  the end of its line.
-/

namespace RuleDelta.Yaml

/-- How a text is written. -/
inductive WrittenStyle
  | plain
  | singleQuoted
  | doubleQuoted
  | literal
  deriving DecidableEq, Repr

/-! ## What a text holds -/

/-- A character that shows as it is. -/
def isPrintable (c : Char) : Bool :=
  let n := c.toNat
  n == 0x0A || (0x20 ≤ n && n ≤ 0x7E) || (0xA0 ≤ n && n ≤ 0xFFFD && n ≠ 0xFEFF) || 0x10000 ≤ n

/-- Whether two neighbours in the text have these properties. -/
def hasNeighbours (p q : Char → Bool) (s : List Char) : Bool :=
  (s.zip (s.drop 1)).any fun (c, d) => p c && q d

/-- Whether the text starts or ends with a character of the property. -/
def hasAtEnd (p : Char → Bool) (s : List Char) : Bool :=
  s.head?.any p || s.getLast?.any p

/-- Whether the first character of the text has a meaning of its own. -/
def opensWithIndicator : List Char → Bool
  | [] => false
  | c :: rest =>
    "#,[]\x7b\x7d&*!|>'\"%@\x60".toList.contains c ||
      ("?:-".toList.contains c && endsWord rest.head?)

/-- Whether a later character of the text has a meaning of its own: a colon at the end of a word, or
a hash sign at the start of one. -/
def holdsIndicator (s : List Char) : Bool :=
  hasNeighbours (· == ':') (fun d => endsWord (some d)) s || s.getLast? == some ':' ||
    hasNeighbours (fun c => endsWord (some c)) (· == '#') s

/-- Whether the text starts like the line between two documents. -/
def opensWithMarker (s : List Char) : Bool :=
  s.take 3 == ['-', '-', '-'] || s.take 3 == ['.', '.', '.']

/-- Whether the text can stand in single quotes. -/
def fitsQuotes (s : List Char) : Bool :=
  s.all isPrintable && !hasNeighbours isBreak (· == ' ') s && !hasNeighbours (· == ' ') isBreak s

/-- Whether the text can stand without quotes. -/
def fitsBare (s : List Char) : Bool :=
  fitsQuotes s && !s.any isBreak && !hasAtEnd (· == ' ') s && !opensWithMarker s &&
    !opensWithIndicator s && !holdsIndicator s

/-- Whether the text can be written line by line. -/
def fitsLines (s : List Char) : Bool :=
  s.all isPrintable && !hasNeighbours (· == ' ') isBreak s && s.getLast? != some ' '

/-- Whether the text would read back as no text. -/
def readsAsOther (s : List Char) : Bool :=
  hasLeadingZero s ||
    match resolve s with
    | .ok (.string _) => false
    | _ => true

/-- The style that a text is written in. -/
def WrittenStyle.choose (s : List Char) : WrittenStyle :=
  if s.contains '\n' then if fitsLines s then literal else doubleQuoted
  else if !readsAsOther s && fitsBare s then plain
  else if fitsQuotes s then singleQuoted
  else doubleQuoted

/-! ## Written forms -/

/-- The spaces in front of the lines of a text. -/
def indentation : List Char := [' ', ' ']

/-- The lines of a text behind the line that announces them. Every line that is not empty is
indented, and the last one is ended. -/
def literalLines (lineStart : Bool) : List Char → List Char
  | [] => if lineStart then [] else ['\n']
  | c :: rest =>
    if isBreak c then c :: literalLines true rest
    else if lineStart then indentation ++ c :: literalLines false rest
    else c :: literalLines false rest

/-- What tells how the lines of a text are indented and how they end. -/
def literalHints (s : List Char) : List Char :=
  let indent := if s.head?.any fun c => c == ' ' || isBreak c then ['2'] else []
  let ending := match s.reverse with
    | c :: before =>
      if !isBreak c then ['-'] else if before.head?.all isBreak then ['+'] else []
    | [] => ['-']
  indent ++ ending

/-- A text in single quotes, without the quotes. A quote is written twice. -/
def singleQuotedText (lineStart : Bool) : List Char → List Char
  | [] => if lineStart then indentation else []
  | c :: rest =>
    if isBreak c then c :: singleQuotedText true rest
    else
      (if lineStart then indentation else []) ++ (if c = '\'' then ['\'', '\''] else [c]) ++
        singleQuotedText false rest

/-- So many digits of a number in hexadecimal. -/
def hexDigits (width n : Nat) : List Char :=
  let digits := (Nat.toDigits 16 n).map Char.toUpper
  List.replicate (width - digits.length) '0' ++ digits

/-- The letter that stands for a character behind a backslash. -/
def escapeLetter? (c : Char) : Option Char :=
  [('\x00', '0'), ('\x07', 'a'), ('\x08', 'b'), ('\t', 't'), ('\n', 'n'), ('\x0b', 'v'),
    ('\x0c', 'f'), ('\r', 'r'), ('\x1b', 'e'), ('"', '"'), ('\\', '\\'), ('\u0085', 'N'),
    ('\u00a0', '_'), ('\u2028', 'L'), ('\u2029', 'P')].lookup c

/-- A character as an escape. -/
def escaped (c : Char) : List Char :=
  match escapeLetter? c with
  | some letter => ['\\', letter]
  | none =>
    if c.toNat ≤ 0xFF then '\\' :: 'x' :: hexDigits 2 c.toNat
    else if c.toNat ≤ 0xFFFF then '\\' :: 'u' :: hexDigits 4 c.toNat
    else '\\' :: 'U' :: hexDigits 8 c.toNat

/-- A text in double quotes, without the quotes. -/
def doubleQuotedText (s : List Char) : List Char :=
  s.flatMap fun c =>
    if !isPrintable c || isBreak c || c == '"' || c == '\\' then escaped c else [c]

/-- The written form of a text, up to the end of its last line. -/
def scalarLines (s : List Char) : List Char :=
  match WrittenStyle.choose s with
  | .plain => s ++ ['\n']
  | .singleQuoted => '\'' :: singleQuotedText false s ++ ['\'', '\n']
  | .doubleQuoted => '"' :: doubleQuotedText s ++ ['"', '\n']
  | .literal => '|' :: literalHints s ++ '\n' :: literalLines true s

end RuleDelta.Yaml

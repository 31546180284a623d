import RuleDelta.Yaml.QuotedScalar
import RuleDelta.Yaml.Tag

/-!
# From characters to tokens

A `Scanner` reads tokens one after another. Two things make this more than a lexer. Indentation
opens and closes block collections, which the scanner shows by tokens of its own. And a mapping
key needs no sign in front of it: only the colon behind shows that there was one, so a token that
may be a key is remembered as a `Candidate`, and the tokens in front of it are put in afterwards.

* `Scanner.next` reads one token;
* `scan` reads all tokens of a text, as far as the text allows.
-/

namespace RuleDelta.Yaml

/-- A token that may turn out to be a mapping key. -/
structure Candidate where
  /-- Whether the token stands where only a key can stand. -/
  required : Bool
  /-- How many tokens come before it. -/
  number : Nat
  mark : Mark
  deriving DecidableEq, Repr

/-- The state of reading tokens. -/
structure Scanner where
  source : Source
  /-- The columns of the open block collections, innermost first. -/
  blocks : List Nat
  /-- The candidate of the current flow collection, or of the block context. -/
  candidate : Option Candidate
  /-- The candidates around it, one for each open flow collection. -/
  outer : List (Option Candidate)
  /-- Whether a key may start here. -/
  keyAllowed : Bool
  /-- The tokens so far, last first. -/
  tokens : List Token
  /-- The number of tokens so far. -/
  count : Nat

namespace Scanner

/-- The scanner at the start of a text. -/
def ofText (text : List Char) : Scanner where
  source := .ofText text
  blocks := []
  candidate := none
  outer := []
  keyAllowed := true
  tokens := [⟨.streamStart, .start⟩]
  count := 1

/-- Whether the scanner is inside of a flow collection. -/
def inFlow (s : Scanner) : Bool :=
  !s.outer.isEmpty

/-- The first column behind the indentation of the innermost block collection. -/
def indent (s : Scanner) : Nat :=
  match s.blocks with
  | [] => 0
  | column :: _ => column + 1

/-- The current place. -/
def mark (s : Scanner) : Mark :=
  s.source.mark

/-- A fault at the current place. -/
def fail {α : Type} (s : Scanner) (problem : Problem) : Except Error α :=
  s.source.fail problem

/-- Adds a token. -/
def push (s : Scanner) (symbol : Symbol) (mark : Mark) : Scanner :=
  { s with tokens := ⟨symbol, mark⟩ :: s.tokens, count := s.count + 1 }

/-- Adds a token that has `number` tokens before it. -/
def insert (s : Scanner) (number : Nat) (symbol : Symbol) (mark : Mark) : Scanner :=
  { s with
    tokens := s.tokens.insertIdx (s.count - number) ⟨symbol, mark⟩
    count := s.count + 1 }

/-! ## Candidates for keys -/

/-- Whether a candidate cannot be a key any more: a key stands on one line and is not longer than
1024 characters. -/
def isStale (s : Scanner) (c : Candidate) : Bool :=
  c.mark.line < s.mark.line || c.mark.index + 1024 < s.mark.index

/-- A candidate that is not stale. A required one must not get stale. -/
def refresh (s : Scanner) : Option Candidate → Except Error (Option Candidate)
  | none => .ok none
  | some c =>
    if s.isStale c then if c.required then s.fail .missingColon else .ok none
    else .ok (some c)

/-- Drops the stale candidates. -/
def dropStale (s : Scanner) : Except Error Scanner := do
  let outer ← s.outer.reverse.mapM s.refresh
  let candidate ← s.refresh s.candidate
  return { s with outer := outer.reverse, candidate }

/-- Drops the candidate of the current context, which must not be required. -/
def dropCandidate (s : Scanner) : Except Error Scanner :=
  match s.candidate with
  | some c => if c.required then s.fail .missingColon else .ok { s with candidate := none }
  | none => .ok s

/-- Makes the next token a candidate where a key may start. -/
def saveCandidate (s : Scanner) : Except Error Scanner := do
  if s.keyAllowed then
    let required := !s.inFlow && s.blocks.head? == some s.mark.column
    let s ← s.dropCandidate
    return { s with candidate := some ⟨required, s.count, s.mark⟩ }
  else return s

/-- The tokens that nothing will be put in front of any more. -/
def settled (s : Scanner) : List Token :=
  let numbers := (s.candidate :: s.outer).filterMap fun c => c.map Candidate.number
  s.tokens.reverse.take (numbers.foldl min s.count)

/-! ## Indentation -/

/-- Opens a block collection at a column that is deeper than all open ones. Its token goes to the
place `number`, or to the end. -/
def openBlock (s : Scanner) (column : Nat) (number? : Option Nat) (symbol : Symbol)
    (mark : Mark) : Scanner :=
  if !s.inFlow && s.blocks.head?.all (fun c => c < column) then
    let s := { s with blocks := column :: s.blocks }
    match number? with
    | some number => s.insert number symbol mark
    | none => s.push symbol mark
  else s

/-- The tokens that close the block collections deeper than the column. -/
def closeDeeper (column : Nat) : List Nat → List Nat × Nat
  | [] => ([], 0)
  | c :: rest =>
    if column < c then
      let (left, closed) := closeDeeper column rest
      (left, closed + 1)
    else (c :: rest, 0)

/-- Closes so many block collections. -/
def pushEnds (s : Scanner) : Nat → Scanner
  | 0 => s
  | n + 1 => (s.push .blockEnd s.mark).pushEnds n

/-- Closes the block collections that are deeper than the column. -/
def closeBlocks (s : Scanner) (column : Nat) : Scanner :=
  if s.inFlow then s
  else
    let (left, closed) := closeDeeper column s.blocks
    { s with blocks := left }.pushEnds closed

/-- Closes all block collections. -/
def closeAllBlocks (s : Scanner) : Scanner :=
  if s.inFlow then s else { s with blocks := [] }.pushEnds s.blocks.length

/-! ## White space between tokens -/

/-- The source in front of the next token, and whether a key may start there. Behind a line break
in block context it may. -/
def tokenFrom (flow keyAllowed inComment : Bool) (mark : Mark) : List Char → Source × Bool
  | [] => (⟨[], mark⟩, keyAllowed)
  | c :: rest =>
    if isSplitReturn c rest then tokenFrom flow keyAllowed inComment mark.insideBreak rest
    else if isBreak c then tokenFrom flow (keyAllowed || !flow) false mark.nextLine rest
    else if inComment then tokenFrom flow keyAllowed true (mark.advance 1) rest
    else if c == '\uFEFF' && mark.index == 0 then
      tokenFrom flow keyAllowed false (mark.advance 1) rest
    else if c == ' ' || (c == '\t' && (flow || !keyAllowed)) then
      tokenFrom flow keyAllowed false (mark.advance 1) rest
    else if c == '#' then tokenFrom flow keyAllowed true (mark.advance 1) rest
    else (⟨c :: rest, mark⟩, keyAllowed)

/-- Goes to the next token. -/
def toToken (s : Scanner) : Scanner :=
  let (source, keyAllowed) := tokenFrom s.inFlow s.keyAllowed false s.mark s.source.rest
  { s with source, keyAllowed }

/-! ## The tokens -/

/-- Reads the end of the text. -/
def readEnd (s : Scanner) : Except Error Scanner := do
  let mark :=
    if s.mark.column = 0 then s.mark else { s.mark with line := s.mark.line + 1, column := 0 }
  let s := { s with source := { s.source with mark } }
  let s ← s.closeAllBlocks.dropCandidate
  return { s with keyAllowed := false }.push .streamEnd mark

/-- Reads a token of `length` characters at the start of a line that belongs to no block. -/
def readOutside (s : Scanner) (read : Source → Except Error (Symbol × Source)) :
    Except Error Scanner := do
  let s ← s.closeAllBlocks.dropCandidate
  let (symbol, source) ← read s.source
  return { s with keyAllowed := false, source }.push symbol s.mark

/-- Reads a sign of one character. -/
def readSign (s : Scanner) (symbol : Symbol) (keyAllowed : Bool) : Scanner :=
  { s with keyAllowed, source := s.source.skip 1 }.push symbol s.mark

/-- Reads the start of a flow collection. -/
def openFlow (s : Scanner) (symbol : Symbol) : Except Error Scanner := do
  let s ← s.saveCandidate
  return { s with candidate := none, outer := s.candidate :: s.outer }.readSign symbol true

/-- Reads the end of a flow collection. -/
def closeFlow (s : Scanner) (symbol : Symbol) : Except Error Scanner := do
  let s ← s.dropCandidate
  let s :=
    match s.outer with
    | candidate :: outer => { s with candidate, outer }
    | [] => s
  return s.readSign symbol false

/-- Reads the sign between two entries of a flow collection. -/
def readFlowEntry (s : Scanner) : Except Error Scanner := do
  return (← s.dropCandidate).readSign .flowEntry true

/-- Reads the dash of an entry. -/
def readBlockEntry (s : Scanner) : Except Error Scanner := do
  if !s.inFlow && !s.keyAllowed then s.fail .misplacedEntry
  else
    let s := s.openBlock s.mark.column none .blockSequenceStart s.mark
    return (← s.dropCandidate).readSign .blockEntry true

/-- Reads the question mark of a key. -/
def readKey (s : Scanner) : Except Error Scanner := do
  if !s.inFlow && !s.keyAllowed then s.fail .misplacedKey
  else
    let s := s.openBlock s.mark.column none .blockMappingStart s.mark
    return (← s.dropCandidate).readSign .key (!s.inFlow)

/-- Reads the colon of a value. A candidate in front of it is a key. -/
def readValue (s : Scanner) : Except Error Scanner :=
  match s.candidate with
  | some c =>
    let s := s.insert c.number .key c.mark
    let s := s.openBlock c.mark.column (some c.number) .blockMappingStart c.mark
    .ok ({ s with candidate := none }.readSign .value false)
  | none =>
    if !s.inFlow && !s.keyAllowed then s.fail .misplacedValue
    else
      let s := s.openBlock s.mark.column none .blockMappingStart s.mark
      .ok (s.readSign .value (!s.inFlow))

/-- Reads a token that may be a key or stand in front of one. -/
def readCandidate (s : Scanner) (read : Source → Except Error (Symbol × Source)) :
    Except Error Scanner := do
  let s ← s.saveCandidate
  let (symbol, source) ← read s.source
  return { s with keyAllowed := false, source }.push symbol s.mark

/-- Reads a name behind its sign. -/
def readNamed (s : Scanner) (symbol : List Char → Symbol) : Except Error Scanner :=
  s.readCandidate fun source => do
    let (name, source) ← readName (source.skip 1)
    return (symbol name, source)

/-- Reads a block scalar. -/
def readBlockScalar (s : Scanner) (style : ScalarStyle) : Except Error Scanner := do
  let s ← s.dropCandidate
  let scalar ← readBlock (style == .literal) s.indent (s.source.skip 1)
  return { s with keyAllowed := true, source := scalar.source }.push
    (.scalar scalar.text style) s.mark

/-- Reads a quoted scalar. -/
def readQuotedScalar (s : Scanner) (style : ScalarStyle) : Except Error Scanner :=
  s.readCandidate fun source => do
    let scalar ← readQuoted (style == .doubleQuoted) (source.skip 1)
    return (.scalar scalar.text style, scalar.source)

/-- Reads a plain scalar. -/
def readPlainScalar (s : Scanner) : Except Error Scanner := do
  let s ← s.saveCandidate
  let scalar ← readPlain s.inFlow s.indent s.source
  return { s with keyAllowed := scalar.broken, source := scalar.source }.push
    (.scalar scalar.text .plain) s.mark

/-- Whether a plain scalar may start with the character, in front of `second`. -/
def startsPlain (flow : Bool) (c : Char) (second : Option Char) : Bool :=
  !(endsWord (some c) || "-?:,[]\x7b\x7d#&*!|>'\"%@\x60".toList.contains c) ||
    (c == '-' && !second.any isSpace) ||
    (!flow && (c == '?' || c == ':') && !endsWord second)

/-- Reads the token that starts with the character `c`, in front of `second`. -/
def readToken (s : Scanner) (c : Char) (second : Option Char) : Except Error Scanner :=
  if s.mark.column == 0 && c == '%' then
    s.readOutside fun source => readDirective (source.skip 1)
  else if s.source.atMarker '-' then
    s.readOutside fun source => .ok (.documentStart, source.skip 3)
  else if s.source.atMarker '.' then
    s.readOutside fun source => .ok (.documentEnd, source.skip 3)
  else if c == '[' then s.openFlow .flowSequenceStart
  else if c == '{' then s.openFlow .flowMappingStart
  else if c == ']' then s.closeFlow .flowSequenceEnd
  else if c == '}' then s.closeFlow .flowMappingEnd
  else if c == ',' then s.readFlowEntry
  else if c == '-' && endsWord second then s.readBlockEntry
  else if c == '?' && (s.inFlow || endsWord second) then s.readKey
  else if c == ':' && (s.inFlow || endsWord second) then s.readValue
  else if c == '*' then s.readNamed .alias
  else if c == '&' then s.readNamed .anchor
  else if c == '!' then s.readCandidate (readTag s.inFlow)
  else if c == '|' && !s.inFlow then s.readBlockScalar .literal
  else if c == '>' && !s.inFlow then s.readBlockScalar .folded
  else if c == '\'' then s.readQuotedScalar .singleQuoted
  else if c == '"' then s.readQuotedScalar .doubleQuoted
  else if startsPlain s.inFlow c second then s.readPlainScalar
  else s.fail .unexpectedCharacter

/-- Reads the next token; `true` when it is the end of the text. -/
def next (s : Scanner) : Except Error (Scanner × Bool) := do
  let s ← s.toToken.dropStale
  let s := s.closeBlocks s.mark.column
  match s.source.rest with
  | [] => return (← s.readEnd, true)
  | c :: rest => return (← s.readToken c rest.head?, false)

/-- Whether the place is so close to `limit` that reading on would pass it. -/
def nears (mark : Mark) (limit : Option Nat) : Bool :=
  limit.any fun n => n < mark.index + 4

/-- The fault of a text that cannot be read. It has no place of its own. -/
def unreadable : Error :=
  .atMark .controlCharacter .start

/-- All tokens from here on, up to the end or the first fault. The text can be read up to
`limit`. -/
def run (limit : Option Nat) : Nat → Scanner → List Token × Option Error
  | 0, s => (s.settled, none)
  | fuel + 1, s =>
    match s.dropStale with
    | .error e => (s.settled, some e)
    | .ok s =>
      if nears s.mark limit then (s.settled, some unreadable)
      else
        match s.next with
        | .error e =>
          let blame := if e.mark?.any (nears · limit) then unreadable else e
          (s.settled, some blame)
        | .ok (s', finished) =>
          if nears s'.mark limit then (s.settled, some unreadable)
          else if finished then (s'.tokens.reverse, none)
          else run limit fuel s'

end Scanner

/-- The tokens of a text up to its end or its first fault. Every token but the last takes at least
one character, which bounds the number of steps. -/
def scan (text : List Char) : List Token × Option Error :=
  match unreadableFrom 0 0 0 text with
  | none => Scanner.run none (text.length + 1) (.ofText text)
  | some limit => Scanner.run (some limit) (text.length + 1) (.ofText (text.take limit))

end RuleDelta.Yaml

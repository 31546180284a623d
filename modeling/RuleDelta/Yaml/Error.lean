/-!
# Faults of YAML texts

A `Mark` is a place in a text, a `Problem` is what can be wrong there, and an `Error` is a problem
with its place, where it has one.
-/

namespace RuleDelta.Yaml

/-- A place in a text. Everything counts from zero. -/
structure Mark where
  /-- The line. -/
  line : Nat
  /-- The character of the line. -/
  column : Nat
  /-- The character of the text. -/
  index : Nat
  deriving DecidableEq, Repr

namespace Mark

/-- The first place of a text. -/
def start : Mark := ⟨0, 0, 0⟩

/-- The place behind `n` characters of the line. -/
def advance (m : Mark) (n : Nat) : Mark :=
  { m with column := m.column + n, index := m.index + n }

/-- The place behind a line break. -/
def nextLine (m : Mark) : Mark :=
  ⟨m.line + 1, 0, m.index + 1⟩

/-- The place behind a carriage return that is part of a longer line break. -/
def insideBreak (m : Mark) : Mark :=
  { m with index := m.index + 1 }

end Mark

/-- What can be wrong with a text. -/
inductive Problem
  | controlCharacter
  | unexpectedCharacter
  | missingColon
  | misplacedEntry
  | misplacedKey
  | misplacedValue
  | directiveName
  | unknownDirective
  | directiveEnd
  | versionNumber
  | tagHandle
  | tagHandleEnd
  | tagUri
  | tagEscape
  | tagEnd
  | anchorName
  | zeroIndentation
  | blockHeaderEnd
  | tabIndentation
  | markerInQuotes
  | unclosedQuote
  | unknownEscape
  | hexadecimalEscape
  | invalidEscape
  | colonInFlow
  | missingDocumentStart
  | duplicateVersion
  | unsupportedVersion
  | duplicateTagHandle
  | undefinedTagHandle
  | missingContent
  | missingDash
  | missingKey
  | missingBracket
  | missingBrace
  | unknownAnchor
  | duplicateKey
  | tooDeep
  | tooManyAliases
  | notOfTag
  | integerTooLarge
  | severalDocuments
  | unexpectedType
  | missingValue
  deriving DecidableEq, Repr

/-- The wording of a problem. -/
def Problem.message : Problem → String
  | controlCharacter => "control characters are not allowed"
  | unexpectedCharacter => "found character that cannot start any token"
  | missingColon => "could not find expected ':'"
  | misplacedEntry => "block sequence entries are not allowed in this context"
  | misplacedKey => "mapping keys are not allowed in this context"
  | misplacedValue => "mapping values are not allowed in this context"
  | directiveName => "could not find expected directive name"
  | unknownDirective => "found unknown directive name"
  | directiveEnd => "did not find expected comment or line break"
  | versionNumber => "did not find expected version number"
  | tagHandle => "did not find expected '!'"
  | tagHandleEnd => "did not find expected whitespace"
  | tagUri => "did not find expected tag URI"
  | tagEscape => "did not find URI escaped octet"
  | tagEnd => "did not find expected whitespace or line break"
  | anchorName => "did not find expected alphabetic or numeric character"
  | zeroIndentation => "found an indentation indicator equal to 0"
  | blockHeaderEnd => "did not find expected comment or line break"
  | tabIndentation => "found a tab character that violates indentation"
  | markerInQuotes => "found unexpected document indicator"
  | unclosedQuote => "found unexpected end of stream"
  | unknownEscape => "found unknown escape character"
  | hexadecimalEscape => "did not find expected hexadecimal number"
  | invalidEscape => "found invalid Unicode character escape code"
  | colonInFlow => "found unexpected ':'"
  | missingDocumentStart => "did not find expected <document start>"
  | duplicateVersion => "found duplicate %YAML directive"
  | unsupportedVersion => "found incompatible YAML document"
  | duplicateTagHandle => "found duplicate %TAG directive"
  | undefinedTagHandle => "found undefined tag handle"
  | missingContent => "did not find expected node content"
  | missingDash => "did not find expected '-' indicator"
  | missingKey => "did not find expected key"
  | missingBracket => "did not find expected ',' or ']'"
  | missingBrace => "did not find expected ',' or '\x7d'"
  | unknownAnchor => "unknown anchor"
  | duplicateKey => "duplicate entry"
  | tooDeep => "recursion limit exceeded"
  | tooManyAliases => "repetition limit exceeded"
  | notOfTag => "value does not have the type of its tag"
  | integerTooLarge => "integer does not fit 64 bits"
  | severalDocuments => "more than one document"
  | unexpectedType => "value of an unexpected type"
  | missingValue => "end of stream"

/-- A problem and its place. -/
structure Error where
  problem : Problem
  /-- The place, unless the problem is one of the whole text. -/
  mark? : Option Mark
  deriving DecidableEq, Repr

namespace Error

/-- A problem at a place. -/
def atMark (problem : Problem) (mark : Mark) : Error :=
  ⟨problem, some mark⟩

/-- The line of the place, counted from one. -/
def line? (e : Error) : Option Nat :=
  e.mark?.map fun m => m.line + 1

/-- The wording of the fault with its place. -/
def message (e : Error) : String :=
  match e.mark? with
  | some m => s!"{e.problem.message} at line {m.line + 1} column {m.column + 1}"
  | none => e.problem.message

end Error

end RuleDelta.Yaml

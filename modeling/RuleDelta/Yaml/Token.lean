import RuleDelta.Yaml.Error

/-!
# Tokens

The tokens of a YAML text: indicators, the starts and ends of collections that indentation gives,
names, and scalars.
-/

namespace RuleDelta.Yaml

/-- How a scalar is written. -/
inductive ScalarStyle
  /-- Without quotes. -/
  | plain
  /-- Between single quotes. -/
  | singleQuoted
  /-- Between double quotes. -/
  | doubleQuoted
  /-- As an indented block that keeps its lines. -/
  | literal
  /-- As an indented block whose lines are joined. -/
  | folded
  deriving DecidableEq, Repr

/-- A token without its place. Tags are bytes, since they may be written with escaped bytes. -/
inductive Symbol
  | streamStart
  | streamEnd
  | version (major minor : Nat)
  | tagDirective (handle : List Char) (lead : List UInt8)
  | documentStart
  | documentEnd
  | blockSequenceStart
  | blockMappingStart
  | blockEnd
  | flowSequenceStart
  | flowSequenceEnd
  | flowMappingStart
  | flowMappingEnd
  | blockEntry
  | flowEntry
  | key
  | value
  | alias (name : List Char)
  | anchor (name : List Char)
  | tag (handle : List Char) (tail : List UInt8)
  | scalar (text : List Char) (style : ScalarStyle)
  deriving DecidableEq, Repr

/-- A token and the place where it starts. -/
structure Token where
  symbol : Symbol
  mark : Mark
  deriving DecidableEq, Repr

end RuleDelta.Yaml

import RuleDelta.Yaml.Token

/-!
# Events

The structure of a YAML text, node by node: documents, scalars, references, and the starts and ends
of collections.
-/

namespace RuleDelta.Yaml

/-- What a node may carry: a name to refer to it, and a tag. -/
structure Properties where
  anchor : Option (List Char)
  tag : Option (List UInt8)
  deriving DecidableEq, Repr

/-- No name and no tag. -/
def Properties.none : Properties := ⟨.none, .none⟩

/-- A step through the structure of a text. -/
inductive Event
  | documentStart
  | documentEnd
  | alias (name : List Char)
  | scalar (properties : Properties) (text : List Char) (style : ScalarStyle)
  | sequenceStart (properties : Properties)
  | sequenceEnd
  | mappingStart (properties : Properties)
  | mappingEnd
  deriving DecidableEq, Repr

/-- An event and the place where it starts. -/
structure Located where
  event : Event
  mark : Mark
  deriving DecidableEq, Repr

namespace Event

/-- A scalar that is left out. -/
def empty (properties : Properties) : Event :=
  .scalar properties [] .plain

end Event

end RuleDelta.Yaml

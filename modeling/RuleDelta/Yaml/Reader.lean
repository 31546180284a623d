import RuleDelta.Text.Utf8
import RuleDelta.Yaml.Node
import RuleDelta.Yaml.Scalar

/-!
# Reading values

The value of a document. References are followed, tags are applied, and three things are refused:
a mapping with two keys that are the same, collections nested too deep, and too many references.

* `Document.value` is the value of one document;
* `readAll` are the values of all documents of a text;
* `readOne` is the value of a text with a single document.
-/

namespace RuleDelta.Yaml

open Text

/-- A part of a reading: it counts the references followed so far, and it may fail. -/
abbrev Reading := StateT Nat (Except Error)

/-- The number of collections that may be open at once. -/
def depthLimit : Nat := 128

/-- How often references may be followed, for each event of a document. -/
def aliasLimit : Nat := 100

/-- The bytes of a tag of the core types. -/
def coreTag (name : String) : List UInt8 :=
  Utf8.encode ("tag:yaml.org,2002:" ++ name).toList

/-- The text behind the exclamation mark of a tag of the application. A mere exclamation mark is a
tag too, and stands for itself. -/
def customTag? (tag : Option (List UInt8)) : Option (List Char) :=
  match tag with
  | some [0x21] => some ['!']
  | some (0x21 :: rest) => (Utf8.decode rest).toOption
  | _ => none

/-- The name of a tag of the application, without a second exclamation mark. -/
def tagName (s : List Char) : String :=
  match s with
  | '!' :: c :: rest => String.ofList (c :: rest)
  | _ => String.ofList s

/-- The value of a plain scalar, or of another one. -/
def scalarValue (text : List Char) (style : ScalarStyle) : Except Problem Value :=
  if style = .plain then resolve text else .ok (.string (String.ofList text))

/-- The value of a scalar with a tag of the core types; with any other tag it is a text. -/
def coreValue (tag : List UInt8) (text : List Char) : Except Problem Value :=
  if tag = coreTag "bool" then
    match bool? text with
    | some b => .ok (.bool b)
    | none => .error .notOfTag
  else if tag = coreTag "int" then
    match (int? text).bind intValue? with
    | some value => value
    | none => .error .notOfTag
  else if tag = coreTag "float" then
    match float? text with
    | some bits => .ok (.float bits)
    | none => .error .notOfTag
  else if tag = coreTag "null" then if isNull text then .ok .null else .error .notOfTag
  else .ok (.string (String.ofList text))

/-- The value of a scalar that has no tag of the application. -/
def untaggedScalar (tag : Option (List UInt8)) (text : List Char) (style : ScalarStyle) :
    Except Problem Value :=
  match tag with
  | none => scalarValue text style
  | some tag => if tag.head? = some 0x21 then scalarValue text style else coreValue tag text

namespace Document

/-- The fault of a document that breaks off. -/
def fault (d : Document) : Error :=
  d.error?.getD ⟨.missingValue, none⟩

/-- The node itself, or the node that a reference stands for. -/
def follow (d : Document) (node : Node) : Reading Node :=
  match node with
  | .alias target => do
    let count ← get
    set (count + 1)
    if d.size * aliasLimit < count + 1 then throw ⟨.tooManyAliases, none⟩
    else return (d.targets.lookup target).getD .missing
  | _ => return node

/-- The value of a node, given its value without its tag. -/
def applyTag (tag : Option (List UInt8)) (plain : Option (List UInt8) → Reading Value) :
    Reading Value :=
  match customTag? tag with
  | none => plain tag
  | some name => do return .tagged (tagName name) (← plain none)

/-- The entries of a mapping behind those already read. -/
def entriesFrom (mark : Mark) (child : Node → Reading Value) (read : List (Value × Value)) :
    List (Node × Node) → Reading (List (Value × Value))
  | [] => return read
  | (keyNode, valueNode) :: rest => do
    let key ← child keyNode
    if read.any fun (other, _) => other.same key then throw (.atMark .duplicateKey mark)
    else do
      let value ← child valueNode
      entriesFrom mark child (read ++ [(key, value)]) rest

/-- The value of a node, given how the nodes in it are read, if collections may still be opened. -/
def nodeValue (d : Document) (child? : Option (Node → Reading Value)) (node : Node) :
    Reading Value := do
  match ← d.follow node with
  | .scalar mark tag text style =>
    applyTag tag fun tag =>
      match untaggedScalar tag text style with
      | .ok value => return value
      | .error problem => throw (.atMark problem mark)
  | .sequence mark tag items =>
    applyTag tag fun _ =>
      match child? with
      | some child => do return .sequence (← items.mapM child)
      | none => throw (.atMark .tooDeep mark)
  | .mapping mark tag entries =>
    applyTag tag fun _ =>
      match child? with
      | some child => do return .mapping (← entriesFrom mark child [] entries)
      | none => throw (.atMark .tooDeep mark)
  | .alias _ | .missing => throw d.fault

/-- The value of a node in which so many collections may be opened inside of each other. -/
def valueWithin (d : Document) : Nat → Node → Reading Value
  | 0 => d.nodeValue none
  | depth + 1 => d.nodeValue (some (d.valueWithin depth))

/-- The value of a document. A fault in its values comes before the fault that ends it. -/
def value (d : Document) : Except Error Value := do
  let (value, _) ← (d.valueWithin depthLimit d.root).run 0
  match d.error? with
  | some e => throw e
  | none => return value

end Document

/-- The values of all documents of a text. -/
def readAll (text : List Char) : Except Error (List Value) :=
  (Document.ofText text).mapM Document.value

/-- The only document of a text, given how it is read. -/
def single {α : Type} (read : Document → Except Error α) (text : List Char) : Except Error α :=
  match Document.ofText text with
  | [] => .error ⟨.missingValue, none⟩
  | [d] => read d
  | d :: _ => do
    let _ ← read d
    throw ⟨.severalDocuments, none⟩

/-- The value of a text with a single document. -/
def readOne (text : List Char) : Except Error Value :=
  single Document.value text

end RuleDelta.Yaml

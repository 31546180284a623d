import RuleDelta.Yaml.Event
import RuleDelta.Yaml.Grammar
import RuleDelta.Yaml.Scanner

/-!
# From events to nodes

The nodes of a document form a tree in which a reference stands for a node elsewhere in it. When a
text has a fault, the document that holds it still has all nodes in front of the fault, and
`Node.missing` stands in the place where the tree breaks off.

* `Node` is the tree;
* `Document` is the tree with its named nodes and its fault;
* `Document.ofEvents` cuts the events of a text into documents.
-/

namespace RuleDelta.Yaml

/-- A node of a document. -/
inductive Node
  | scalar (mark : Mark) (tag : Option (List UInt8)) (text : List Char) (style : ScalarStyle)
  | sequence (mark : Mark) (tag : Option (List UInt8)) (items : List Node)
  | mapping (mark : Mark) (tag : Option (List UInt8)) (entries : List (Node × Node))
  /-- A reference to the node of this number. -/
  | alias (target : Nat)
  /-- The place of the fault. -/
  | missing

namespace Node

instance : Inhabited Node := ⟨missing⟩

/-- The scalar of an empty document. -/
def blank : Node :=
  .scalar .start none [] .plain

end Node

/-- A document, or what there is of it. -/
structure Document where
  root : Node
  /-- The named nodes by their numbers. -/
  targets : List (Nat × Node)
  /-- The number of events that the document consists of. -/
  size : Nat
  /-- The fault that ends the document. -/
  error? : Option Error

/-- The kind of an open collection. -/
inductive CollectionKind
  | sequence
  | mapping
  deriving DecidableEq, Repr

/-- A collection whose end is still to come. -/
structure OpenCollection where
  kind : CollectionKind
  mark : Mark
  tag : Option (List UInt8)
  /-- The serial number of the node, if it has a name. -/
  serial? : Option Nat
  /-- The nodes in it so far, last first. -/
  children : List Node

/-- The entries of a mapping from its keys and values in turn. A key without a value comes last in
a document that breaks off. -/
def pairUp : List Node → List (Node × Node)
  | [] => []
  | [key] => [(key, .missing)]
  | key :: value :: rest => (key, value) :: pairUp rest

/-- The node of a collection. -/
def OpenCollection.node (c : OpenCollection) : Node :=
  match c.kind with
  | .sequence => .sequence c.mark c.tag c.children.reverse
  | .mapping => .mapping c.mark c.tag (pairUp c.children.reverse)

/-- A document that is being put together. A name stands for a number, and a number for the node
that got it last, whatever the name. -/
structure Draft where
  opened : List OpenCollection
  root : Node
  /-- The numbers of the names. -/
  names : List (List Char × Nat)
  /-- The serial numbers of the nodes with a name, by their numbers, last first. -/
  serials : List (Nat × Nat)
  /-- The nodes with a name by their serial numbers. -/
  named : List (Nat × Node)
  size : Nat

namespace Draft

/-- A document without nodes. -/
def empty : Draft := ⟨[], .missing, [], [], [], 0⟩

/-- Gives the node at hand a name. A new name gets the count of the names so far as its number; so
does a name that is given again. -/
def declare (d : Draft) (anchor : Option (List Char)) : Draft × Option Nat :=
  match anchor with
  | none => (d, none)
  | some name =>
    let number := d.names.length
    let serial := d.serials.length
    let names := (name, number) :: d.names.filter fun (other, _) => other != name
    ({ d with names, serials := (number, serial) :: d.serials }, some serial)

/-- Puts a finished node in its place. -/
def place (d : Draft) (node : Node) (serial? : Option Nat) : Draft :=
  let named := match serial? with
    | some serial => (serial, node) :: d.named
    | none => d.named
  match d.opened with
  | [] => { d with root := node, named }
  | c :: rest => { d with opened := { c with children := node :: c.children } :: rest, named }

/-- Opens a collection. -/
def openWith (d : Draft) (kind : CollectionKind) (p : Properties) (mark : Mark) : Draft :=
  let (d, serial?) := d.declare p.anchor
  { d with opened := ⟨kind, mark, p.tag, serial?, []⟩ :: d.opened }

/-- Closes the innermost collection. -/
def close (d : Draft) : Draft :=
  match d.opened with
  | [] => d
  | c :: rest => { d with opened := rest }.place c.node c.serial?

/-- The draft with one more event. A reference needs a name that was given before it. -/
def add (d : Draft) (e : Located) : Except Error Draft :=
  let d := { d with size := d.size + 1 }
  match e.event with
  | .documentStart | .documentEnd => .ok { d with size := d.size - 1 }
  | .alias name =>
    match d.names.find? fun (other, _) => other == name with
    | some (_, number) => .ok (d.place (.alias number) none)
    | none => .error (.atMark .unknownAnchor e.mark)
  | .scalar p text style =>
    let (d, serial?) := d.declare p.anchor
    .ok (d.place (.scalar e.mark p.tag text style) serial?)
  | .sequenceStart p => .ok (d.openWith .sequence p e.mark)
  | .mappingStart p => .ok (d.openWith .mapping p e.mark)
  | .sequenceEnd | .mappingEnd => .ok d.close

/-- Closes so many collections. -/
def closeAll (d : Draft) : Nat → Draft
  | 0 => d
  | n + 1 => d.close.closeAll n

/-- The document of a draft that nothing is missing from. -/
def finish (d : Draft) (error? : Option Error) : Document where
  root := d.root
  targets := d.serials.filterMap fun (number, serial) =>
    (d.named.lookup serial).map fun node => (number, node)
  size := d.size
  error?

/-- The document of a draft that breaks off with a fault. -/
def breakOff (d : Draft) (error : Error) : Document :=
  if d.opened.isEmpty then d.finish (some error)
  else
    let d' := d.place .missing none
    (d'.closeAll d'.opened.length).finish (some error)

end Draft

namespace Document

/-- The documents from a place within one on, and whether a fault came up that ends them all. -/
def fromDraft (error? : Option Error) (draft? : Option Draft) : List Located → List Document
  | [] =>
    match error? with
    | some e => [(draft?.getD .empty).breakOff e]
    | none => []
  | e :: rest =>
    match (draft?.getD .empty).add e with
    | .error fault => [(draft?.getD .empty).breakOff fault]
    | .ok d =>
      match e.event with
      | .documentEnd => d.finish none :: fromDraft error? none rest
      | _ => fromDraft error? (some d) rest

/-- The documents of a text, given its events and the fault behind the last of them. A text
without a document stands for an empty one. -/
def ofEvents (events : List Located × Option Error) : List Document :=
  match fromDraft events.2 none events.1 with
  | [] => [⟨.blank, [], 1, none⟩]
  | documents => documents

/-- The documents of a text. Only the last can have a fault. -/
def ofText (text : List Char) : List Document :=
  ofEvents (parse (scan text))

end Document

end RuleDelta.Yaml

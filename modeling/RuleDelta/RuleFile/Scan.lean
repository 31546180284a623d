import RuleDelta.LineRange
import RuleDelta.RuleFile.Line

/-!
# Finding rules by indentation

The values of a rule file come without places, so the places are found by looking at indentation:
the items of each key for rules, line by line. Lines inside of a block scalar may look like
anything; they are marked first.

* `scalarMarks` marks the lines of block scalars;
* `groups` are the keys for rules with the lines of their items.
-/

namespace RuleDelta.RuleFile

open Text

/-! ## Lines of block scalars -/

/-- Whether a line can belong to a block scalar with the given parent. -/
def belongsTo (parent : Nat) (line : List Char) : Bool :=
  allBlank line || parent < indentOf line

/-- The number of lines of a block scalar, given the lines behind its header. Blank lines at its
end do not count. -/
def scalarLength (parent : Nat) (rest : List (List Char)) : Nat :=
  ((rest.takeWhile (belongsTo parent)).reverse.dropWhile allBlank).length

/-- The marks of the lines, when the first `inside` of them belong to a block scalar. -/
def scalarMarksFrom : Nat → List (List Char) → List Bool
  | _, [] => []
  | inside + 1, _ :: rest => true :: scalarMarksFrom inside rest
  | 0, line :: rest =>
    let length := match scalarParent? line with
      | some parent => scalarLength parent rest
      | none => 0
    false :: scalarMarksFrom length rest

/-- For each line, whether it is content of a block scalar. -/
def scalarMarks (lines : List (List Char)) : List Bool :=
  scalarMarksFrom 0 lines

/-! ## Items -/

/-- The lines of one item. -/
structure RuleBlock where
  lines : LineRange
  /-- The column of the dash. -/
  dash : Nat
  deriving DecidableEq, Repr

namespace RuleBlock

/-- An item that starts on a line. -/
def start (line dash : Nat) : RuleBlock :=
  ⟨.single line, dash⟩

/-- The item with a further line. -/
def extend (b : RuleBlock) (line : Nat) : RuleBlock :=
  { b with lines := {
      first := b.lines.first
      last := max b.lines.last line
      first_le_last := by have := b.lines.first_le_last; omega } }

end RuleBlock

/-- A key for rules and the lines of its items. -/
structure RuleGroup where
  /-- The line of the key. -/
  keyLine : Nat
  /-- The items; none when the value stands on the line of the key. -/
  blocks : List RuleBlock
  deriving DecidableEq, Repr

/-- A key for rules whose items are being read. -/
structure OpenGroup where
  keyLine : Nat
  /-- The least indentation of items. -/
  indent : Nat
  /-- The finished items, last first. -/
  finished : List RuleBlock
  /-- The item that is being read. -/
  current : Option RuleBlock
  deriving DecidableEq, Repr

namespace OpenGroup

/-- The group of a key without items. -/
def start (keyLine indent : Nat) : OpenGroup :=
  ⟨keyLine, indent, [], none⟩

/-- The group with a further line in its current item, if there is one. -/
def extend (g : OpenGroup) (line : Nat) : OpenGroup :=
  { g with current := g.current.map fun b => b.extend line }

/-- The group with a further item. -/
def startItem (g : OpenGroup) (line dash : Nat) : OpenGroup :=
  { g with finished := g.current.toList ++ g.finished, current := some (.start line dash) }

/-- The group as it stands. -/
def close (g : OpenGroup) : RuleGroup :=
  ⟨g.keyLine, (g.current.toList ++ g.finished).reverse⟩

/-- The group behind an unmarked line with text, or `none` if the line ends it. The first item
fixes the column of the dashes. -/
def read? (g : OpenGroup) (line : Nat) (s : List Char) : Option OpenGroup :=
  let indent := indentOf s
  let isItem := isListItem (unindented s)
  match g.current with
  | none => if isItem ∧ g.indent ≤ indent then some (g.startItem line indent) else none
  | some b =>
    if b.dash < indent then some (g.extend line)
    else if indent = b.dash ∧ isItem then some (g.startItem line indent)
    else none

end OpenGroup

/-! ## Groups -/

/-- What an unmarked line opens outside of a group: a finished group, or one to be read. -/
def openAt (line : Nat) (s : List Char) : List RuleGroup × Option OpenGroup :=
  match rulesKey? s with
  | some (.block indent) => ([], some (.start line indent))
  | some .inline => ([⟨line, []⟩], none)
  | none => ([], none)

/-- What one line does: the groups that are finished by it, and the group open behind it. A line
that ends a group may open another. -/
def readLine (line : Nat) (open? : Option OpenGroup) (s : List Char) (marked : Bool) :
    List RuleGroup × Option OpenGroup :=
  match open? with
  | none => if marked then ([], none) else openAt line s
  | some g =>
    if marked then ([], some (g.extend line))
    else if isBlankOrComment s then ([], some g)
    else
      match g.read? line s with
      | some g => ([], some g)
      | none =>
        let (finished, open?) := openAt line s
        (g.close :: finished, open?)

/-- The groups of the lines from number `line` on. -/
def groupsFrom (line : Nat) (open? : Option OpenGroup) : List (List Char × Bool) → List RuleGroup
  | [] => (open?.map OpenGroup.close).toList
  | (s, marked) :: rest =>
    let (finished, open?) := readLine line open? s marked
    finished ++ groupsFrom (line + 1) open? rest

/-- The keys for rules among the lines of a file, with the lines of their items. -/
def groups (lines : List (List Char)) (marks : List Bool) : List RuleGroup :=
  groupsFrom 1 none (lines.zip marks)

end RuleDelta.RuleFile

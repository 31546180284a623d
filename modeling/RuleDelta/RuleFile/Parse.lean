import RuleDelta.Change.Entry
import RuleDelta.RuleFile.Salvage
import RuleDelta.Text.Line
import RuleDelta.Yaml.Reader

/-!
# Rule files

A rule file is a YAML text whose rules are the items under the keys `rules`. Its values come from a
reader of YAML, its places from a scan of its lines, and the two are put together in order. A
strict reading refuses a file where anything is wrong. A lenient one takes what it can get: items
that can be read on their own.

* `ruleLists` are the items of a value;
* `locate` gives the items their lines;
* `parseWith` reads a file, given a reader of YAML, and `parse` with the reader of this library.
-/

namespace RuleDelta

open Text

/-- What can be wrong with a rule file. -/
inductive ParseProblem
  /-- The bytes are no text. -/
  | notUtf8 (fault : Utf8.Fault)
  /-- The text is not YAML. -/
  | yaml (error : Yaml.Error)
  /-- The scan of the lines found other items than the reader. -/
  | unmatchedItems

/-- A rule file that cannot be read. -/
structure ParseError where
  /-- The path to show. -/
  path : String
  problem : ParseProblem

namespace ParseError

/-- The line of the problem, if it has one. -/
def line? (e : ParseError) : Option Nat :=
  match e.problem with
  | .yaml error => error.line?
  | _ => none

/-- The wording of the problem, given that of faults of YAML. -/
def problemText (yamlText : Yaml.Error → String) (e : ParseError) : String :=
  match e.problem with
  | .notUtf8 fault => s!"file is not valid UTF-8: {fault.message}"
  | .yaml error => yamlText error
  | .unmatchedItems => "rule items could not be matched to source lines"

/-- The wording with path and line, given that of faults of YAML. -/
def messageWith (yamlText : Yaml.Error → String) (e : ParseError) : String :=
  let text := e.problemText yamlText
  match e.line? with
  | some line => s!"{e.path}:{line}: {text}"
  | none => s!"{e.path}: {text}"

/-- The wording with path and line. -/
def message (e : ParseError) : String :=
  e.messageWith Yaml.Error.message

end ParseError

/-- How a reading of a rule file can fail. -/
inductive ParseFailure
  /-- The file is refused. -/
  | refused (error : ParseError)
  /-- The reading broke down: a line would have to be cut inside of a character. -/
  | broken

/-- How much a reading of a rule file puts up with. -/
inductive ParseMode
  | strict
  | lenient
  deriving DecidableEq, Repr

/-- A reading of rule files: from the path of the content, the path to show, the content and the
mode to the entries. -/
abbrev RuleParser :=
  String → String → List UInt8 → ParseMode → Except ParseFailure (List Entry)

namespace RuleFile

/-! ## Items of a value -/

/-- The items of a sequence without a tag. -/
def items? : Yaml.Value → Option (List Yaml.Value)
  | .sequence items => some items
  | _ => none

mutual

/-- The items under each key for rules in a value, in the order of the text. A value of such a key
that is no sequence counts as no items and is searched further; items are not searched. -/
def ruleLists : Yaml.Value → List (List Yaml.Value)
  | .mapping entries => ruleListsOfEntries entries
  | .sequence items => ruleListsOfItems items
  | .tagged _ value => ruleLists value
  | _ => []

/-- The items under each key for rules in the entries of a mapping. -/
def ruleListsOfEntries : List (Yaml.Value × Yaml.Value) → List (List Yaml.Value)
  | [] => []
  | (key, value) :: rest =>
    (if key.text? = some "rules" then
      match items? value with
      | some items => [items]
      | none => [] :: ruleLists value
    else ruleLists value) ++ ruleListsOfEntries rest

/-- The items under each key for rules in the items of a sequence. -/
def ruleListsOfItems : List Yaml.Value → List (List Yaml.Value)
  | [] => []
  | value :: rest => ruleLists value ++ ruleListsOfItems rest

end

/-! ## Items and lines -/

/-- The rules of one key: each item with its lines, or all with the line of the key when none has
lines of its own. `none` when the numbers of items differ. -/
def RuleGroup.rules? (g : RuleGroup) (items : List Yaml.Value) : Option (List Rule) :=
  if g.blocks.length = items.length then
    some (List.zipWith (fun b body => Rule.ofBody b.lines body) g.blocks items)
  else if g.blocks.isEmpty then some (items.map (Rule.ofBody (.single g.keyLine)))
  else none

/-- The rules of all keys, or `none` when the numbers of keys or of items differ. -/
def locate : List RuleGroup → List (List Yaml.Value) → Option (List Rule)
  | [], [] => some []
  | g :: gs, items :: lists => do
    let rules ← g.rules? items
    let rest ← locate gs lists
    return rules ++ rest
  | _, _ => none

/-! ## Files -/

/-- A reader of YAML: the values of all documents of a text, and the value of a text with a single
document. -/
structure YamlReader where
  readAll : List Char → Except Yaml.Error (List Yaml.Value)
  readOne : List Char → Except Yaml.Error Yaml.Value

/-- The reader of this library. -/
def yamlReader : YamlReader where
  readAll := Yaml.readAll
  readOne := Yaml.readOne

/-- A file as the scan of its lines sees it. -/
structure Scanned where
  /-- The lines with their marks. -/
  lines : List (List Char × Bool)
  groups : List RuleGroup

/-- The scan of a text. -/
def scan (text : List Char) : Scanned :=
  let rows := lines text
  let marks := scalarMarks rows
  ⟨rows.zip marks, groups rows marks⟩

/-- The rule of an item that can be read on its own. The outer `none` means that its lines cannot
be cut. -/
def salvageItem? (reader : YamlReader) (s : Scanned) (b : RuleBlock) : Option (Option Rule) := do
  let text ← itemText? s.lines b
  return (reader.readOne text).toOption.map (Rule.ofBody b.lines)

/-- The rules of the items that can be read on their own. -/
def salvage? (reader : YamlReader) (s : Scanned) : Option (List Rule) := do
  let found ← (s.groups.flatMap RuleGroup.blocks).mapM (salvageItem? reader s)
  return found.filterMap id

/-- The rules of a text that is read as a whole. -/
def readRules (reader : YamlReader) (text : List Char) : Except ParseProblem (List Rule) :=
  match reader.readAll text with
  | .error e => .error (.yaml e)
  | .ok documents =>
    match locate (scan text).groups (documents.flatMap ruleLists) with
    | some rules => .ok rules
    | none => .error .unmatchedItems

/-- The rules of a text. A lenient reading falls back to the items on their own. -/
def rulesOfText (reader : YamlReader) (mode : ParseMode) (text : List Char) :
    Except (Option ParseProblem) (List Rule) :=
  match readRules reader text, mode with
  | .ok rules, _ => .ok rules
  | .error problem, .strict => .error (some problem)
  | .error _, .lenient =>
    match salvage? reader (scan text) with
    | some rules => .ok rules
    | none => .error none

/-- The rules of a file. To a lenient reading, bytes that are no text hold no rules. -/
def rulesOfBytes (reader : YamlReader) (mode : ParseMode) (content : List UInt8) :
    Except (Option ParseProblem) (List Rule) :=
  match Utf8.decode content, mode with
  | .ok text, _ => rulesOfText reader mode text
  | .error fault, .strict => .error (some (.notUtf8 fault))
  | .error _, .lenient => .ok []

/-- Reads a rule file with a reader of YAML. -/
def parseWith (reader : YamlReader) : RuleParser := fun sourcePath shownPath content mode =>
  match rulesOfBytes reader mode content with
  | .ok rules => .ok (rules.map (Entry.ofRule sourcePath shownPath))
  | .error (some problem) => .error (.refused ⟨shownPath, problem⟩)
  | .error none => .error .broken

/-- Reads a rule file. -/
def parse : RuleParser :=
  parseWith yamlReader

end RuleFile

end RuleDelta

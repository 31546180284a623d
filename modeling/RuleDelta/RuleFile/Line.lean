import RuleDelta.Text.Blank
import RuleDelta.Text.Split

/-!
# The lines of a rule file

What a single line of a rule file looks like: its indentation, whether it starts an item, whether
it holds a key for rules, and whether a block scalar starts on it. Indentation counts spaces only.
-/

namespace RuleDelta.RuleFile

open Text

/-- The number of spaces at the start of a line. -/
def indentOf (line : List Char) : Nat :=
  (line.takeWhile (· = ' ')).length

/-- A line without the spaces at its start. -/
def unindented (line : List Char) : List Char :=
  line.dropWhile (· = ' ')

/-- Whether a line holds nothing but white space, or a comment. -/
def isBlankOrComment (line : List Char) : Bool :=
  match trimStart line with
  | [] => true
  | c :: _ => c = '#'

/-- Whether a line, without its indentation, starts an item of a list. -/
def isListItem (s : List Char) : Bool :=
  s = ['-'] || startsWith s ['-', ' ']

/-! ## Keys for rules -/

/-- A key for rules. -/
inductive RulesKey
  /-- The items follow on the next lines, indented by at least so many spaces. -/
  | block (indent : Nat)
  /-- The value stands on the line of the key. -/
  | inline
  deriving DecidableEq, Repr

/-- The spellings of the key. -/
def rulesKeyWords : List (List Char) :=
  ["rules:".toList, "\"rules\":".toList, "'rules':".toList]

/-- The key for rules on a line, alone or as the first key of an item. -/
def rulesKey? (line : List Char) : Option RulesKey := do
  let indent := indentOf line
  let s := unindented line
  let (indent, s) := match dropWord? ['-', ' '] s with
    | some rest => (indent + 2 + indentOf rest, unindented rest)
    | none => (indent, s)
  let rest ← rulesKeyWords.findSome? fun word => dropWord? word s
  match rest with
  | [] => return .block indent
  | c :: _ =>
    if c = ' ' ∨ c = '\t' then
      match trim rest with
      | [] => return .block indent
      | d :: _ => return if d = '#' then .block indent else .inline
    else none

/-! ## Block scalars -/

/-- Whether a value starts a block scalar: a bar or an angle bracket, further indicators, and
perhaps a comment. -/
def isBlockIndicator (value : List Char) : Bool :=
  let value := match splitFirst? [' ', '#'] value with
    | some (before, _) => before
    | none => value
  match trim value with
  | [] => false
  | c :: rest => (c = '|' || c = '>') && rest.all fun d => d = '+' || d = '-' || d.isDigit

/-- The column of a key whose value starts a block scalar, given what stands from the key on. -/
def keyParent? (column : Nat) (s : List Char) : Option Nat :=
  if s.head? = some '#' then none
  else
    match splitFirst? [':', ' '] s with
    | some (_, value) => if isBlockIndicator value then some column else none
    | none => none

/-- The column that the content of a block scalar must be indented deeper than, given what stands
behind the dash at column `dash` and from `column` on. -/
def parentBehindDash? (dash column : Nat) : List Char → Option Nat
  | [] => none
  | c :: rest =>
    if c = ' ' then parentBehindDash? dash (column + 1) rest
    else if isBlockIndicator (c :: rest) then some dash
    else if c = '-' then
      match rest with
      | ' ' :: rest' => parentBehindDash? column (column + 2) rest'
      | _ => keyParent? column (c :: rest)
    else keyParent? column (c :: rest)

/-- The column that the content of a block scalar must be indented deeper than, if one starts on
this line. -/
def scalarParent? (line : List Char) : Option Nat :=
  let indent := indentOf line
  let s := unindented line
  match dropWord? ['-', ' '] s with
  | some rest => parentBehindDash? indent (indent + 2) rest
  | none => keyParent? indent s

end RuleDelta.RuleFile

import RuleDelta.Change.Entry
import RuleDelta.LineSet

/-!
# Reports as text

One line for each entry, and a line that counts them by their states.
-/

namespace RuleDelta.Report

/-- The text with blanks behind it up to a width. -/
def padded (width : Nat) (s : String) : String :=
  s ++ String.ofList (List.replicate (width - s.length) ' ')

/-- The lines of an entry, or a dash for none. -/
def linesText (lines : List Nat) : String :=
  if lines.isEmpty then "-" else LineSet.render lines

/-- The name of a rule, or a word for one without a name. -/
def nameText (name : String) : String :=
  if name.isEmpty then "<anonymous>" else name

/-- The line of an entry. -/
def entryLine (e : Entry) : String :=
  s!"{padded 9 e.state.name} {e.reportedPath}:{linesText e.modifiedLines} {e.rule.kind.name} " ++
    s!"{nameText e.rule.name}\n"

/-- The states in the order in which they are counted. -/
def countedStates : List ChangeState :=
  [.added, .modified, .moved, .removed, .excluded]

/-- The number of entries of a state, unless there are none. -/
def stateCount? (entries : List Entry) (state : ChangeState) : Option String :=
  let count := entries.countP fun e => e.state == state
  if count = 0 then none else some s!"{count} {state.name}"

/-- The line that counts the entries. -/
def summaryLine (entries : List Entry) : String :=
  let counts := countedStates.filterMap (stateCount? entries)
  s!"{entries.length} rule(s): " ++ String.intercalate ", " counts ++ "\n"

/-- The report of some entries. -/
def text (entries : List Entry) : String :=
  if entries.isEmpty then "No rules to check.\n"
  else String.join (entries.map entryLine) ++ "\n" ++ summaryLine entries

end RuleDelta.Report

import RuleDelta.Rule.Basic

/-!
# Entries

An entry is a rule as seen in a file, together with what became of it and with the lines to report
for it.
-/

namespace RuleDelta

/-- What became of a rule between the base branch and the current one. -/
inductive ChangeState
  /-- Not yet known. -/
  | unknown
  /-- The rule is new. -/
  | added
  /-- The rule says something else. -/
  | modified
  /-- The rule is gone. -/
  | removed
  /-- The rule says the same in another file. -/
  | moved
  /-- The rule says the same in the same file. -/
  | excluded
  deriving DecidableEq, Repr

/-- The name of a state in reports. -/
def ChangeState.name : ChangeState → String
  | unknown => "unknown"
  | added => "added"
  | modified => "modified"
  | removed => "removed"
  | moved => "moved"
  | excluded => "excluded"

/-- A rule as seen in a file. -/
structure Entry where
  /-- The file that the rule was read from; behind a link, its target. -/
  sourcePath : String
  /-- The path to show. -/
  reportedPath : String
  rule : Rule
  state : ChangeState
  /-- The lines to report. -/
  modifiedLines : List Nat
  /-- Why the path could not be resolved, if so. Such an entry is not found by its name. -/
  pathError : Option String

namespace Entry

/-- The entry of a rule that nothing is known of yet; it reports all lines of the rule. -/
def ofRule (sourcePath reportedPath : String) (rule : Rule) : Entry where
  sourcePath
  reportedPath
  rule
  state := .unknown
  modifiedLines := rule.lines.toList
  pathError := none

/-- The entry under another path. -/
def reportedAs (e : Entry) (path : String) : Entry :=
  { e with reportedPath := path }

end Entry

end RuleDelta

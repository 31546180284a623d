import RuleDelta.LineRange
import RuleDelta.Yaml.Value

/-!
# Rules

A rule is an item of a rule file. Its kind and its name follow from its body; its lines tell where
it stands. Two rules are identical when they say the same, wherever they stand.
-/

namespace RuleDelta

/-- What a rule does. Rules of different kinds are never the same rule. -/
inductive RuleKind
  /-- The rule raises an alert. -/
  | alerting
  /-- The rule records a series. -/
  | recording
  /-- The item is no rule. -/
  | invalid
  deriving DecidableEq, Repr

/-- The name of a kind in reports. -/
def RuleKind.name : RuleKind → String
  | alerting => "alerting"
  | recording => "recording"
  | invalid => "invalid"

/-- An item of a rule file. -/
structure Rule where
  /-- The name, empty for a rule without one. -/
  name : String
  kind : RuleKind
  /-- The lines that the rule takes in its file. -/
  lines : LineRange
  /-- What the rule says. -/
  body : Yaml.Value

namespace Rule

/-- The kind and the name that a body gives its rule. -/
def kindAndName (body : Yaml.Value) : RuleKind × String :=
  match body.field? "alert" with
  | some name => (.alerting, name.text?.getD "")
  | none =>
    match body.field? "record" with
    | some name => (.recording, name.text?.getD "")
    | none => (.invalid, "")

/-- The rule with the given body. -/
def ofBody (lines : LineRange) (body : Yaml.Value) : Rule where
  kind := (kindAndName body).1
  name := (kindAndName body).2
  lines
  body

/-- Whether two rules say the same under the same name. -/
def isIdentical (a b : Rule) : Bool :=
  a.kind == b.kind && a.name == b.name && a.body.same b.body

end Rule

end RuleDelta

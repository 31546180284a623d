import RuleDelta.Change.Pairing
import RuleDelta.Event.Basic
import RuleDelta.Git.Change
import RuleDelta.LineSet

/-!
# What became of the rules

A pairing tells what became of a rule, and with it the lines to report: those that the change adds
within the rule, all lines of a file that a rule moved to, and the lines of a rule that is gone.

* `classify` is the entry of a pairing;
* `classifyEvent` is the event of a pairing.
-/

namespace RuleDelta

/-- The entry with the lines of the rule that a change adds. -/
def Entry.changedBy (change : FileChange) (state : ChangeState) (e : Entry) : Entry :=
  { e with state, modifiedLines := LineSet.intersect change.modifiedLines e.modifiedLines }

/-- The entry of a rule on both sides. -/
def Pairing.keptEntry (change : FileChange) (p : Pairing) (after : Entry) : Entry :=
  if p.wasMoved then
    { after with state := .moved, modifiedLines := LineSet.linesOf change.bodyAfter }
  else if p.isIdentical then { after with state := .excluded, modifiedLines := [] }
  else after.changedBy change .modified

/-- What became of the rule of a pairing. A pairing without rules has no entry. -/
def classify (change : FileChange) (p : Pairing) : Option Entry :=
  match p.before?, p.after? with
  | none, some after => some (after.changedBy change .added)
  | some _, some after => some (p.keptEntry change after)
  | some before, none => some { before with state := .removed }
  | none, none => none

/-- The event of a pairing. -/
def classifyEvent (change : FileChange) (p : Pairing) : Event :=
  match classify change p with
  | some e => .classified e
  | none => .unknownPairing change.after.name

/-- The entries of a changed file with these rules on its sides. -/
def classifyAll (change : FileChange) (before after : List Entry) : List Entry :=
  (pairEntries before after).filterMap (classify change)

end RuleDelta

import RuleDelta.Change.Entry

/-!
# Events

What a run does and decides, in the order in which it happens.
-/

namespace RuleDelta

/-- Something that a run does or decides. -/
inductive Event
  /-- The run starts. -/
  | started (baseBranch : String)
  /-- The commits to look at are known. -/
  | commitRangeResolved (oldest newest : String) (commits : Nat)
  /-- The message of a commit says to check nothing. -/
  | skipMarkerFound (commit marker : String)
  /-- The patterns leave a changed file out. -/
  | fileSkipped (path : String)
  /-- It is known what became of a rule. -/
  | entryClassified (name : String) (state : ChangeState) (path : String) (lines : LineRange)
    (modifiedLines : List Nat)
  /-- A pairing has no rule on either side. -/
  | unknownPairing (path : String)
  /-- A rule can be reached by a link too. -/
  | aliasAdded (path target : String)
  deriving DecidableEq

/-- The event of an entry whose state is known. -/
def Event.classified (e : Entry) : Event :=
  .entryClassified e.rule.name e.state e.sourcePath e.rule.lines e.modifiedLines

end RuleDelta

import RuleDelta.Event.Basic
import RuleDelta.LineSet

/-!
# Log records

What a run tells its log: a level, a message and named texts.
-/

namespace RuleDelta

/-- How much a log record matters. -/
inductive LogLevel
  | debug
  | info
  | warn
  deriving DecidableEq, Repr

/-- The name of a level. -/
def LogLevel.name : LogLevel → String
  | debug => "DEBUG"
  | info => "INFO"
  | warn => "WARN"

/-- An entry of the log. -/
structure LogRecord where
  level : LogLevel
  message : String
  /-- The named texts, in their order. -/
  fields : List (String × String)
  deriving DecidableEq, Repr

/-- What an event tells the log. -/
def Event.logRecord : Event → LogRecord
  | started base =>
    ⟨.info, "Finding all rules to check on current git branch", [("base", base)]⟩
  | commitRangeResolved oldest newest commits =>
    ⟨.debug, "Got commit range from git",
      [("from", oldest), ("to", newest), ("commits", toString commits)]⟩
  | skipMarkerFound commit marker =>
    ⟨.info, "Found a commit with a skip marker, skipping all checks",
      [("commit", commit), ("marker", marker)]⟩
  | fileSkipped path => ⟨.debug, "Skipping file due to include/exclude rules", [("path", path)]⟩
  | entryClassified name state path lines modified =>
    ⟨.debug, "Rule classified",
      [("name", name), ("state", state.name), ("path", path), ("rule_lines", lines.render),
        ("modified_lines", LineSet.render modified)]⟩
  | unknownPairing path =>
    ⟨.warn, "Rule pairing has neither a before nor an after entry, ignoring", [("path", path)]⟩
  | aliasAdded path target =>
    ⟨.debug, "Rule file is also reachable through a symlink",
      [("path", path), ("target", target)]⟩

end RuleDelta

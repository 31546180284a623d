import RuleDelta.Error
import RuleDelta.Text.Blank
import RuleDelta.Text.Numeral

/-!
# Configuration

The settings of a run and the values that a run cannot go with.

* `Config.validate` refuses such values;
* `Config.pathFilter` and `Config.relaxedPatterns` are the patterns of a configuration, given what
  reads them.
-/

namespace RuleDelta

open Text

/-- The settings of a run. -/
structure Config where
  /-- The branch that the current one is compared with. -/
  baseBranch : String
  /-- The largest number of commits to look at. -/
  maxCommits : Nat
  /-- Patterns of the paths to check. -/
  included : List String
  /-- Patterns of the paths not to check. -/
  excluded : List String
  /-- Patterns of the paths whose old version is read leniently. -/
  relaxed : List String
  deriving DecidableEq, Repr

namespace Config

/-- The settings where nothing else is said. -/
def default : Config where
  baseBranch := "main"
  maxCommits := 20
  included := []
  excluded := []
  relaxed := []

instance : Inhabited Config := ⟨default⟩

/-- An error of a pattern as one of the configuration. -/
def badPattern {α : Type} (result : Except BadPattern α) : Except ConfigError α :=
  result.mapError .badPattern

section

variable (patterns : PatternReader) (c : Config)

/-- The filter of changed files. -/
def pathFilter : Except ConfigError PathFilter :=
  badPattern (PathFilter.compile patterns c.included c.excluded)

/-- The patterns of the paths whose old version is read leniently. -/
def relaxedPatterns : Except ConfigError PatternList :=
  badPattern (PatternList.compile patterns "relaxed" c.relaxed)

/-- Refuses a blank base branch, a maximum of zero commits, and patterns that cannot be read. -/
def validate : Except ConfigError Unit := do
  if allBlank c.baseBranch.toList then throw .emptyBaseBranch
  if c.maxCommits = 0 then throw .zeroMaxCommits
  let _ ← c.pathFilter patterns
  let _ ← c.relaxedPatterns patterns

/-- The configuration, if a run can go with it. -/
def validated : Except ConfigError Config := do
  c.validate patterns
  return c

end

end Config

end RuleDelta

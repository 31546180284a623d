import RuleDelta.Config.Basic

/-!
# Command lines

What a command line asks for, and why one may be refused.

* `Invocation` is a command line that is accepted;
* `Refusal` are the other answers;
* `Config.override` puts the flags of a command line over the settings of a file.
-/

namespace RuleDelta

/-- The form of a report. -/
inductive OutputFormat
  | text
  | json
  deriving DecidableEq, Repr

/-- The name of a form on the command line. -/
def OutputFormat.name : OutputFormat → String
  | text => "text"
  | json => "json"

/-- What a discovery is asked for. Flags that are left out leave the settings alone. -/
structure DiscoverArgs where
  baseBranch : Option String
  maxCommits : Option Nat
  included : List String
  excluded : List String
  relaxed : List String
  /-- The file with the settings. -/
  config : Option String
  format : OutputFormat
  /-- The directory to run in. -/
  repo : Option String
  /-- The file that records of events go to. -/
  events : Option String
  deriving DecidableEq, Repr

/-- What the display of the settings is asked for. -/
structure ConfigArgs where
  config : Option String
  repo : Option String
  deriving DecidableEq, Repr

/-- What is to be done. -/
inductive Command
  | discover (args : DiscoverArgs)
  | config (args : ConfigArgs)
  deriving DecidableEq, Repr

/-- A command line that is accepted. -/
structure Invocation where
  /-- Whether the log is to have more. -/
  verbose : Bool
  command : Command
  deriving DecidableEq, Repr

/-- Why nothing is to be done. -/
inductive Refusal
  /-- A value is missing, or it is none of those that are possible. -/
  | invalidValue
  | unknownArgument
  | invalidSubcommand
  /-- A value cannot be read. -/
  | valueValidation
  /-- A flag has a value. -/
  | tooManyValues
  /-- An option comes twice. -/
  | argumentConflict
  | missingSubcommand
  | displayHelp
  | displayVersion
  /-- There are no arguments at all. -/
  | displayHelpOnMissing
  deriving DecidableEq, Repr

/-- The settings of a file with the flags of a command line over them. A list on the command line
stands for the whole list of the file. -/
def Config.override (args : DiscoverArgs) (c : Config) : Config where
  baseBranch := args.baseBranch.getD c.baseBranch
  maxCommits := args.maxCommits.getD c.maxCommits
  included := if args.included.isEmpty then c.included else args.included
  excluded := if args.excluded.isEmpty then c.excluded else args.excluded
  relaxed := if args.relaxed.isEmpty then c.relaxed else args.relaxed

end RuleDelta

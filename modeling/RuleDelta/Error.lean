import RuleDelta.PathFilter
import RuleDelta.RuleFile.Parse

/-!
# Errors

What can end a run, by its cause. `Error.message` is the wording and `Error.exitCode` the status
that the program ends with.
-/

namespace RuleDelta

/-- The wording of what libraries for YAML and for patterns find wrong. -/
structure Wording where
  yaml : Yaml.Error → String
  pattern : PatternFault → String

/-- The wording of this library. -/
def Wording.standard : Wording where
  yaml := Yaml.Error.message
  pattern := PatternFault.message

/-- Why there is no configuration to run with. -/
inductive ConfigError
  /-- The file cannot be read. -/
  | unreadable (path reason : String)
  /-- The file is no YAML, or its values are of the wrong types. -/
  | malformed (fault : Yaml.Error)
  /-- The configuration cannot be written. -/
  | unwritable (fault : Yaml.Error)
  | emptyBaseBranch
  | zeroMaxCommits
  | badPattern (pattern : BadPattern)
  /-- The directory belongs to no repository. -/
  | notInRepository (path : String)
  /-- The file for events cannot be opened. -/
  | unopenedEvents (path reason : String)

/-- The wording of an error of the configuration. -/
def ConfigError.message (w : Wording) : ConfigError → String
  | unreadable path reason => s!"failed to read config file '{path}': {reason}"
  | malformed fault => s!"failed to parse config YAML: {w.yaml fault}"
  | unwritable fault => s!"failed to serialize config to YAML: {w.yaml fault}"
  | emptyBaseBranch => "config validation failed: base_branch must not be empty"
  | zeroMaxCommits => "config validation failed: max_commits must be greater than 0"
  | badPattern p => s!"invalid regex pattern in {p.field}: '{p.source}' - {w.pattern p.fault}"
  | notInRepository path =>
    s!"'{path}' is not inside a git repository. Run this command from within a git repository."
  | unopenedEvents path reason => s!"failed to open events file '{path}': {reason}"

/-- What can end a run. -/
inductive Error
  /-- There is no range of commits to look at. -/
  | commitRange (reason : String)
  /-- There are more commits than the configuration allows. -/
  | tooManyCommits (commits max : Nat)
  /-- The changed files cannot be listed. -/
  | changeList (reason : String)
  /-- The message of a commit cannot be read. -/
  | commitMessage (commit reason : String)
  /-- A changed file cannot be read as a rule file. -/
  | invalidSyntax (error : ParseError)
  /-- The links of the working tree cannot be resolved. -/
  | symlink (reason : String)
  /-- A command of git failed. -/
  | git (reason : String)
  | config (error : ConfigError)
  /-- The reading of a rule file broke down. -/
  | broken

namespace Error

/-- The wording of an error, given that of the libraries. -/
def messageWith (w : Wording) : Error → String
  | commitRange reason => s!"failed to get the list of commits to scan: {reason}"
  | tooManyCommits commits max =>
    s!"number of commits to check ({commits}) is higher than max_commits ({max}), exiting"
  | changeList reason => s!"failed to list changed files: {reason}"
  | commitMessage commit reason => s!"failed to get commit message for {commit}: {reason}"
  | invalidSyntax error => s!"invalid file syntax: {error.messageWith w.yaml}"
  | symlink reason => s!"symlink resolution failed: {reason}"
  | git reason => s!"Git operation failed: {reason}"
  | config error => error.message w
  | broken => "a line would have to be cut inside of a character"

/-- The wording of an error. -/
def message (e : Error) : String :=
  e.messageWith .standard

/-- The exit status of a run that ends with an error of the user. -/
def userStatus : Nat := 1

/-- The exit status of a run that finds a changed file with bad syntax. -/
def syntaxStatus : Nat := 2

/-- The exit status of a run that git fails. -/
def gitStatus : Nat := 3

/-- The exit status of a run that breaks down. -/
def brokenStatus : Nat := 101

/-- The exit status of a run that ends with the error. -/
def exitCode : Error → Nat
  | tooManyCommits _ _ | symlink _ | config _ => userStatus
  | invalidSyntax _ => syntaxStatus
  | commitRange _ | changeList _ | commitMessage _ _ | git _ => gitStatus
  | broken => brokenStatus

end Error

end RuleDelta

import RuleDelta.FileTree.Basic
import RuleDelta.Git.Runner
import RuleDelta.Text.Split

/-!
# Git as a program

Starting git in a directory and making an answer, or an error, of what it prints and how it ends.

* `Workplace` is where programs run;
* `gitIn` is the runner that starts git in a directory;
* `repositoryRoot` asks git for the top of the working tree.
-/

namespace RuleDelta

open Text

/-- How a program ended. -/
inductive ExitStatus
  | code (n : Nat)
  /-- A signal ended it. -/
  | signal
  deriving DecidableEq, Repr

/-- The wording of an exit status. -/
def ExitStatus.render : ExitStatus → String
  | code n => toString n
  | signal => "signal"

/-- What a program did. -/
structure ProcessOutput where
  status : ExitStatus
  stdout : List UInt8
  stderr : List UInt8
  deriving DecidableEq, Repr

/-- Where programs run. -/
structure Workplace where
  files : FileTree
  /-- The current directory. -/
  here : Place
  /-- What git does in a directory with these arguments, or why it cannot be started. -/
  program : Place → List String → Except String ProcessOutput

/-- The wording for a text that no argument can be. -/
def zeroInArgument : String := "nul byte found in provided data"

/-- Starts git in the directory of a path. -/
def Workplace.startGit (w : Workplace) (path : String) (args : List String) :
    Except String ProcessOutput :=
  if (path :: args).any fun text => text.toList.contains (Char.ofNat 0) then .error zeroInArgument
  else
    match w.files.resolve w.here path.toList with
    | .error fault => .error fault.message
    | .ok place =>
      if w.files.isDirectory place then w.program place args
      else .error FileFault.notDirectory.message

/-- The first argument that is neither an option for a setting nor a setting. -/
def subcommand : List String → String
  | [] => ""
  | ["-c"] => ""
  | "-c" :: _ :: rest => subcommand rest
  | arg :: _ => arg

/-- The answer of a program that ended. What a failure says is what was printed as an error or,
without that, whatever was printed. -/
def ProcessOutput.answer (args : List String) (p : ProcessOutput) : Except Error GitOutput :=
  let output := GitOutput.ofBytes p.stdout p.stderr
  if p.status = .code 0 then .ok output
  else
    let detail := if output.stderr.isEmpty then output.stdout else output.stderr
    .error (.git
      s!"git {subcommand args} exited with {p.status.render}: {String.ofList detail}")

/-- The runner that starts git in the directory of a path. -/
def gitIn (w : Workplace) (path : String) : GitRunner := fun args =>
  match w.startGit path args with
  | .error reason => .error (.git s!"cannot spawn git {subcommand args}: {reason}")
  | .ok output => output.answer args

/-- What git says outside of a repository. -/
def outsideWords : List Char := "not a git repository".toList

/-- The top of the working tree that a directory belongs to. -/
def repositoryRoot (w : Workplace) (path : String) : Except Error String :=
  match gitIn w path ["rev-parse", "--show-toplevel"] with
  | .ok output => .ok (String.ofList output.stdout)
  | .error (.git reason) =>
    if contains reason.toList outsideWords then .error (.config (.notInRepository path))
    else .error (.git reason)
  | .error e => .error e

end RuleDelta

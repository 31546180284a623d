import RuleDelta.Error
import RuleDelta.Event.Log
import RuleDelta.Git.Output

/-!
# Running git

A runner answers commands of git. A run asks a runner, reports events, tells the log, and may end
with an error; its trace keeps what it has done up to then.

* `GitRunner` and `Run` are the two types;
* `git` asks a runner.
-/

namespace RuleDelta

/-- What answers commands of git, given by their arguments. -/
abbrev GitRunner := List String → Except Error GitOutput

/-- What a run has done so far. -/
structure Trace where
  /-- The commands of git, by their arguments. -/
  calls : List (List String)
  events : List Event
  log : List LogRecord

/-- The trace of a run that has not started. -/
def Trace.start : Trace := ⟨[], [], []⟩

/-- A part of a run. -/
abbrev Run := ExceptT Error (StateM Trace)

namespace Run

/-- Reports an event. -/
def emit (e : Event) : Run Unit :=
  modify fun t => { t with events := t.events ++ [e] }

/-- Warns about something. -/
def warn (message : String) (fields : List (String × String)) : Run Unit :=
  modify fun t => { t with log := t.log ++ [⟨.warn, message, fields⟩] }

/-- The part of a run with another error in place of its own. -/
def mapError {α : Type} (f : Error → Error) (x : Run α) : Run α :=
  ExceptT.adapt f x

end Run

/-- Runs a command of git. -/
def git (runner : GitRunner) (args : List String) : Run GitOutput := do
  modify fun t => { t with calls := t.calls ++ [args] }
  match runner args with
  | .ok output => return output
  | .error e => throw e

end RuleDelta

import RuleDelta.Event.Log
import RuleDelta.Event.Record

/-!
# Sinks

Where events go: a list in memory, a file of records, and the log. A file that takes no more
records ends no run, and neither does a record that cannot be written; each record that is not in
the file is mentioned in the log.

* `Sink.emit` is what a sink does with an event;
* `fanOut` hands an event to several sinks in turn.
-/

namespace RuleDelta

/-- What the sinks have kept so far. -/
structure Kept where
  /-- The events in memory. -/
  memory : List Event
  /-- The lines of the file of records. -/
  written : List (List Char)
  log : List LogRecord

/-- Nothing kept. -/
def Kept.nothing : Kept := ⟨[], [], []⟩

/-- A place where events go. -/
inductive Sink
  | memory
  /-- A file, or why nothing can be written to it. -/
  | records (time : String) (failure? : Option String)
  | log
  deriving DecidableEq, Repr

/-- What is kept with a warning in the log. -/
def Kept.warn (k : Kept) (message reason : String) : Kept :=
  { k with log := k.log ++ [⟨.warn, message, [("error", reason)]⟩] }

/-- What a sink does with an event, given what writes records. -/
def Sink.emit (write : JsonWriter) (s : Sink) (k : Kept) (e : Event) : Kept :=
  match s with
  | memory => { k with memory := k.memory ++ [e] }
  | records time failure? =>
    match e.recordLine write time, failure? with
    | .error reason, _ => k.warn "failed to serialize discovery event" reason
    | .ok line, none => { k with written := k.written ++ [line] }
    | .ok _, some reason => k.warn "failed to write discovery event" reason
  | log => { k with log := k.log ++ [e.logRecord] }

/-- What several sinks do with an event, one after the other. -/
def fanOut (write : JsonWriter) (sinks : List Sink) (k : Kept) (e : Event) : Kept :=
  sinks.foldl (fun k s => s.emit write k e) k

end RuleDelta

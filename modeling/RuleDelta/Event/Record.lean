import RuleDelta.Event.Basic
import RuleDelta.Json

/-!
# Records of events

A file of events has one line per event: a JSON object with the kind of the event, its fields and
the time, where the keys ascend.

* `Event.record` is the object of an event;
* `Event.recordLine` is its line, given what writes it.
-/

namespace RuleDelta

/-- A range of lines as an object. -/
def LineRange.json (r : LineRange) : JsonValue :=
  .object [("first", .number r.first), ("last", .number r.last)]

namespace Event

/-- The name of the kind of an event. -/
def tag : Event → String
  | started _ => "started"
  | commitRangeResolved _ _ _ => "commit_range_resolved"
  | skipMarkerFound _ _ => "skip_marker_found"
  | fileSkipped _ => "file_skipped"
  | entryClassified _ _ _ _ _ => "entry_classified"
  | unknownPairing _ => "unknown_pairing"
  | aliasAdded _ _ => "alias_added"

/-- The fields of an event. -/
def fields : Event → List (String × JsonValue)
  | started base => [("base_branch", .string base)]
  | commitRangeResolved oldest newest commits =>
    [("from", .string oldest), ("to", .string newest), ("commits", .number commits)]
  | skipMarkerFound commit marker => [("commit", .string commit), ("marker", .string marker)]
  | fileSkipped path => [("path", .string path)]
  | entryClassified name state path lines modified =>
    [("name", .string name), ("state", .string state.name), ("path", .string path),
      ("rule_lines", lines.json), ("modified_lines", .array (modified.map .number))]
  | unknownPairing path => [("path", .string path)]
  | aliasAdded path target => [("path", .string path), ("target", .string target)]

/-- The fields of the record of an event at a time, by ascending keys. -/
def recordFields (time : String) (e : Event) : List (String × JsonValue) :=
  List.mergeSort (e.fields ++ [("event", JsonValue.string e.tag), ("ts", JsonValue.string time)])
    fun f g => f.1 ≤ g.1

/-- The object of an event at a time. -/
def record (time : String) (e : Event) : JsonValue :=
  .object (e.recordFields time)

/-- The line of an event at a time. -/
def recordLine (write : JsonWriter) (time : String) (e : Event) : Except String (List Char) :=
  write (e.record time)

end Event

end RuleDelta

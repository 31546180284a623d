import RuleDelta.Event.Record

/-!
# Reports as JSON

An array with one object for each entry.
-/

namespace RuleDelta.Report

/-- The object of an entry. -/
def entryJson (e : Entry) : JsonValue :=
  .object ([("source_path", .string e.sourcePath), ("reported_path", .string e.reportedPath),
    ("rule", .object [("name", .string e.rule.name), ("kind", .string e.rule.kind.name),
      ("lines", e.rule.lines.json)]),
    ("state", .string e.state.name), ("modified_lines", .array (e.modifiedLines.map .number))] ++
    (e.pathError.map fun reason => ("path_error", JsonValue.string reason)).toList)

/-- The report of some entries. -/
def json (entries : List Entry) : String :=
  String.ofList ((JsonValue.array (entries.map entryJson)).pretty ++ ['\n'])

end RuleDelta.Report

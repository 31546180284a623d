import RuleDelta.Git.Change

/-!
# Skip markers

A commit message may say that nothing on the branch is to be checked.
-/

namespace RuleDelta

open Text

/-- The words in a commit message that say so, in the order in which they are looked for. -/
def skipMarkers : List String :=
  ["[skip ci]", "[no ci]"]

/-- The first marker in a message. -/
def markerIn? (message : List Char) : Option String :=
  skipMarkers.find? fun marker => contains message marker.toList

/-- The first of some commits whose message has a marker, with the marker. A commit that comes up
again is not looked at again; `seen` are the commits so far. -/
def findMarker (runner : GitRunner) (seen : List String) :
    List String → Run (Option (String × String))
  | [] => return none
  | commit :: rest =>
    if seen.contains commit then findMarker runner seen rest
    else do
      let message ← Run.mapError (fun e => .commitMessage commit e.message)
        (commitMessage runner commit)
      match markerIn? message with
      | some marker => return some (commit, marker)
      | none => findMarker runner (commit :: seen) rest

/-- The first commit of the changed files whose message has a marker, with the marker. -/
def skipMarker? (runner : GitRunner) (files : List FileChange) :
    Run (Option (String × String)) :=
  findMarker runner [] (files.flatMap FileChange.commits)

end RuleDelta

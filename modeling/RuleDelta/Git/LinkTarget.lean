import RuleDelta.Text.Blank
import RuleDelta.Text.Split

/-!
# Targets of links

The target of a link is a path from the directory of the link. Inside of the repository it is
resolved by its parts alone: `..` takes the last part away, and `.` and empty parts do nothing.
-/

namespace RuleDelta

open Text

/-- The parts of a directory behind the parts of a path, both last first; `none` when the path
leaves the top. -/
def walk? : List (List Char) → List (List Char) → Option (List (List Char))
  | dir, [] => some dir
  | dir, part :: rest =>
    if part = [] || part = ['.'] then walk? dir rest
    else if part = ['.', '.'] then
      match dir with
      | [] => none
      | _ :: up => walk? up rest
    else walk? (part :: dir) rest

/-- The path that a link with a target stands for; `none` when it lies outside of the repository or
is its top. -/
def linkTarget? (link target : List Char) : Option (List Char) :=
  if target.head? == some '/' then none
  else
    match walk? (splitAt '/' link).dropLast.reverse (splitAt '/' (trim target)) with
    | none | some [] => none
    | some parts => some (['/'].intercalate parts.reverse)

end RuleDelta

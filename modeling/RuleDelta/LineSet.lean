import RuleDelta.LineRange

/-!
# Sets of lines

A set of lines of a file is a list of numbers.

* `intersect` keeps the common lines of two sets, in the order of the first;
* `linesOf` are the lines of a file;
* `runs` are the maximal ranges of a set, and `render` is their text, such as `1-3,7`.
-/

namespace RuleDelta.LineSet

/-- The lines of `found`, then those of `candidates` that are in `other` and not yet found. -/
def collect (other : List Nat) : List Nat → List Nat → List Nat
  | [], found => found
  | line :: rest, found =>
    if other.contains line && !found.contains line then collect other rest (found ++ [line])
    else collect other rest found

/-- The lines in both sets: those of `a` in its order, then those of `b` that are still missing.
No line comes twice. -/
def intersect (a b : List Nat) : List Nat :=
  collect a b (collect b a [])

/-- The number of lines of a file: its line feeds, and one more for a text behind the last. -/
def lineCount (body : List UInt8) : Nat :=
  let feeds := body.count 0x0A
  match body.getLast? with
  | none => feeds
  | some b => if b = 0x0A then feeds else feeds + 1

/-- Every line of a file, from one on. -/
def linesOf (body : List UInt8) : List Nat :=
  List.range' 1 (lineCount body)

/-- An ascending list with one more member. -/
def insert (line : Nat) : List Nat → List Nat
  | [] => [line]
  | l :: ls =>
    if line < l then line :: l :: ls
    else if line = l then l :: ls
    else l :: insert line ls

/-- The ascending list without duplicates that has the members of `l`. -/
def canonical (l : List Nat) : List Nat :=
  l.foldr insert []

/-- The ranges of an ascending list of lines that all come after `run`, a range that is still
growing. -/
def runsFrom (run : LineRange) : List Nat → List LineRange
  | [] => [run]
  | line :: rest =>
    if h : line = run.last + 1 then
      runsFrom ⟨run.first, line, by have := run.first_le_last; omega⟩ rest
    else run :: runsFrom (.single line) rest

/-- The maximal ranges of lines in a set, ascending. -/
def runs (l : List Nat) : List LineRange :=
  match canonical l with
  | [] => []
  | line :: rest => runsFrom (.single line) rest

/-- The text of a set: its maximal ranges between commas. -/
def render (l : List Nat) : String :=
  ",".intercalate ((runs l).map LineRange.render)

end RuleDelta.LineSet

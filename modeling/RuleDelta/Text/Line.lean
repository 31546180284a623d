/-!
# Lines

A line ends with a line feed, and a carriage return in front of that line feed belongs to the
ending. The last line may lack its line feed; a text that ends with one has no further line.

* `pieces` cuts a text after each line feed and loses nothing;
* `lines` are the pieces without their endings.
-/

namespace RuleDelta.Text

/-- The text cut after each line feed. -/
def pieces : List Char → List (List Char)
  | [] => []
  | c :: rest =>
    if c = '\n' then ['\n'] :: pieces rest
    else
      match pieces rest with
      | [] => [[c]]
      | p :: ps => (c :: p) :: ps

/-- A piece without its line feed, and without a carriage return that stood before it. -/
def dropEnding (piece : List Char) : List Char :=
  if piece.getLast? = some '\n' then
    let body := piece.dropLast
    if body.getLast? = some '\r' then body.dropLast else body
  else piece

/-- The lines of a text. -/
def lines (s : List Char) : List (List Char) :=
  (pieces s).map dropEnding

@[simp] theorem pieces_nil : pieces [] = [] := rfl

/-- Cutting loses nothing. -/
theorem flatten_pieces (s : List Char) : (pieces s).flatten = s := by
  induction s with
  | nil => rfl
  | cons c rest ih =>
    by_cases h : c = '\n'
    · simp [pieces, h, ih]
    · cases hp : pieces rest with
      | nil => simp_all [pieces]
      | cons p ps => simp_all [pieces]

@[simp] theorem length_lines (s : List Char) : (lines s).length = (pieces s).length := by
  simp [lines]

end RuleDelta.Text

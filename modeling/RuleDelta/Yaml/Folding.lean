import RuleDelta.Yaml.Source

/-!
# White space inside of scalars

White space between two words of a plain or quoted scalar is read as a `Gap`. Blanks of one line
are kept. A single line break becomes a space, and of several the first is dropped.
-/

namespace RuleDelta.Yaml

/-- White space read so far. -/
structure Gap where
  /-- The blanks, as long as there is no line break. -/
  blanks : List Char
  /-- Whether there is a line break. -/
  broken : Bool
  /-- The first line break, unless it is escaped. -/
  first : List Char
  /-- The further line breaks. -/
  others : List Char
  /-- Whether a backslash came last, in front of a line break that thereby stands for nothing. -/
  escaping : Bool
  deriving DecidableEq, Repr

namespace Gap

/-- No white space. -/
def empty : Gap := ⟨[], false, [], [], false⟩

/-- The gap in front of a line break that is escaped. -/
def escapedBreak : Gap := ⟨[], true, [], [], true⟩

/-- Whether there is no white space. -/
def isEmpty (g : Gap) : Bool :=
  g.blanks.isEmpty && !g.broken

/-- The gap with one more blank. Blanks behind a line break are indentation. -/
def addBlank (g : Gap) (c : Char) : Gap :=
  if g.broken then g else { g with blanks := g.blanks ++ [c] }

/-- The gap with one more line break. Blanks in front of it are dropped. -/
def addBreak (g : Gap) (c : Char) : Gap :=
  if g.escaping then { g with escaping := false }
  else if g.broken then { g with others := g.others ++ [breakText c] }
  else { g with blanks := [], broken := true, first := [breakText c] }

/-- What the gap stands for. -/
def text (g : Gap) : List Char :=
  if g.broken then
    if g.first = ['\n'] then if g.others.isEmpty then [' '] else g.others
    else g.first ++ g.others
  else g.blanks

end Gap

end RuleDelta.Yaml

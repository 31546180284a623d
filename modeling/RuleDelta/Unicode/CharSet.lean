import RuleDelta.Text.Numeral
import RuleDelta.Text.Split

/-!
# Sets of characters

A set of characters is a list of ranges of code points in ascending order with gaps in between, so
that equal sets are equal lists. The tables of this folder write ranges in hexadecimal.

* `CharSet.ofRanges` takes any ranges;
* `union`, `complement`, `inter`, `difference`, `symmetricDifference` are the operations;
* `readRanges` reads the ranges of a table.
-/

namespace RuleDelta.Unicode

open Text

/-- A range of code points, both ends included. -/
structure CodeRange where
  first : Nat
  last : Nat
  deriving DecidableEq, Repr

/-- A set of characters, as ranges in ascending order. -/
structure CharSet where
  ranges : List CodeRange
  deriving DecidableEq, Repr

/-- The last code point. -/
def lastCode : Nat := 0x10FFFF

namespace CharSet

/-- The set without characters. -/
def empty : CharSet := ⟨[]⟩

/-- All characters. -/
def all : CharSet := ⟨[⟨0, lastCode⟩]⟩

/-- The range `r` and the ranges behind it in ascending order, where those that meet are joined. -/
def join (r : CodeRange) : List CodeRange → List CodeRange
  | [] => [r]
  | s :: rest =>
    if s.first ≤ r.last + 1 then join ⟨r.first, max r.last s.last⟩ rest else r :: join s rest

/-- The ranges in ascending order, where those that meet are joined. -/
def joinAll : List CodeRange → List CodeRange
  | [] => []
  | r :: rest => join r rest

/-- The set of all characters in the ranges. -/
def ofRanges (ranges : List CodeRange) : CharSet :=
  ⟨joinAll ((ranges.filter fun r => r.first ≤ r.last).mergeSort fun r s => r.first ≤ s.first)⟩

/-- The set of the code points. -/
def ofCodes (codes : List Nat) : CharSet :=
  ofRanges (codes.map fun code => ⟨code, code⟩)

/-- The set of one character. -/
def single (c : Char) : CharSet :=
  ⟨[⟨c.toNat, c.toNat⟩]⟩

/-- The set of the characters from `first` to `last`. -/
def between (first last : Char) : CharSet :=
  ofRanges [⟨first.toNat, last.toNat⟩]

/-- Whether a code point is in the set. -/
def hasCode (s : CharSet) (code : Nat) : Bool :=
  s.ranges.any fun r => decide (r.first ≤ code) && decide (code ≤ r.last)

/-- Whether a character is in the set. -/
def has (s : CharSet) (c : Char) : Bool :=
  s.hasCode c.toNat

/-- The gaps from the code point `start` on. -/
def gaps (start : Nat) : List CodeRange → List CodeRange
  | [] => if start ≤ lastCode then [⟨start, lastCode⟩] else []
  | r :: rest =>
    if start < r.first then ⟨start, r.first - 1⟩ :: gaps (r.last + 1) rest
    else gaps (r.last + 1) rest

/-- The characters outside of the set. -/
def complement (s : CharSet) : CharSet :=
  ⟨gaps 0 s.ranges⟩

/-- The characters in either set. -/
def union (s t : CharSet) : CharSet :=
  ofRanges (s.ranges ++ t.ranges)

/-- The characters in both sets. -/
def inter (s t : CharSet) : CharSet :=
  (s.complement.union t.complement).complement

/-- The characters of the first set that are not in the second. -/
def difference (s t : CharSet) : CharSet :=
  s.inter t.complement

/-- The characters in only one of the two sets. -/
def symmetricDifference (s t : CharSet) : CharSet :=
  (s.union t).difference (s.inter t)

/-- Whether all characters are ASCII. -/
def isAscii (s : CharSet) : Bool :=
  s.ranges.all fun r => decide (r.last < 0x80)

end CharSet

/-! ## Tables -/

/-- The words of a line of a table. -/
def tableWords (line : String) : List (List Char) :=
  (splitAt ' ' line.toList).filter fun word => !word.isEmpty

/-- A number of a table. -/
def tableNumber (word : List Char) : Nat :=
  (digits? 16 word).getD 0

/-- The code points from `first` to `last`, at the distance `step`. -/
def stepped (first last step : Nat) : List Nat :=
  (List.range ((last - first) / step + 1)).map fun k => first + k * step

/-- The ranges of a word such as `41-5A`, `AA` or, with a step, `100-12E/2`. -/
def readRange (word : List Char) : List CodeRange :=
  match splitFirst? ['-'] word with
  | none => [⟨tableNumber word, tableNumber word⟩]
  | some (first, rest) =>
    match splitFirst? ['/'] rest with
    | none => [⟨tableNumber first, tableNumber rest⟩]
    | some (last, step) =>
      (stepped (tableNumber first) (tableNumber last) (tableNumber step)).map fun code =>
        ⟨code, code⟩

/-- The ranges of some lines of a table. -/
def readRanges (lines : List String) : List CodeRange :=
  (lines.flatMap tableWords).flatMap readRange

end RuleDelta.Unicode

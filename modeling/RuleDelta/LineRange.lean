/-!
# Ranges of lines

`LineRange` is a nonempty range of the lines of a file, ends included. Lines count from one.
-/

namespace RuleDelta

/-- The lines from `first` to `last`. -/
@[ext] structure LineRange where
  /-- The least line. -/
  first : Nat
  /-- The greatest line. -/
  last : Nat
  /-- The ends are in order. -/
  first_le_last : first ≤ last := by omega
deriving DecidableEq, Repr

namespace LineRange

/-- The range between two lines, given in either order. -/
def between (a b : Nat) : LineRange where
  first := min a b
  last := max a b

/-- The range of one line. -/
def single (line : Nat) : LineRange where
  first := line
  last := line

/-- The lines of the range, ascending. -/
def toList (r : LineRange) : List Nat :=
  List.range' r.first (r.last + 1 - r.first)

instance : Membership Nat LineRange where
  mem r line := r.first ≤ line ∧ line ≤ r.last

instance (line : Nat) (r : LineRange) : Decidable (line ∈ r) :=
  inferInstanceAs (Decidable (r.first ≤ line ∧ line ≤ r.last))

/-- The text of a range: one number, or two with a dash. -/
def render (r : LineRange) : String :=
  if r.first = r.last then toString r.first else s!"{r.first}-{r.last}"

theorem mem_iff {line : Nat} {r : LineRange} : line ∈ r ↔ r.first ≤ line ∧ line ≤ r.last :=
  Iff.rfl

@[simp] theorem mem_toList {line : Nat} {r : LineRange} : line ∈ r.toList ↔ line ∈ r := by
  have := r.first_le_last
  simp only [toList, List.mem_range'_1, mem_iff]
  omega

end LineRange

end RuleDelta

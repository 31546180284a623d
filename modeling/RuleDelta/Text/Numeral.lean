/-!
# Numerals

Whole numbers written with digits, in bases up to sixteen.
-/

namespace RuleDelta.Text

/-- The largest number of a machine word of 64 bits. -/
def wordMax : Nat := 0xFFFFFFFFFFFFFFFF

/-- The value of a digit, letters counting from ten. -/
def digitValue? (c : Char) : Option Nat :=
  if '0' ≤ c ∧ c ≤ '9' then some (c.toNat - '0'.toNat)
  else if 'a' ≤ c ∧ c ≤ 'z' then some (c.toNat - 'a'.toNat + 10)
  else if 'A' ≤ c ∧ c ≤ 'Z' then some (c.toNat - 'A'.toNat + 10)
  else none

/-- A digit of the given base. -/
def digitIn? (base : Nat) (c : Char) : Option Nat :=
  (digitValue? c).filter (· < base)

/-- The number that the digits write after the digits of `value`. -/
def digitsFrom? (base value : Nat) : List Char → Option Nat
  | [] => some value
  | c :: cs => (digitIn? base c).bind fun d => digitsFrom? base (value * base + d) cs

/-- The number written by one digit or more. -/
def digits? (base : Nat) (s : List Char) : Option Nat :=
  if s.isEmpty then none else digitsFrom? base 0 s

/-- The number that the text writes with an optional plus sign, if it is at most `max`. -/
def unsigned? (base max : Nat) (s : List Char) : Option Nat :=
  let body := match s with
    | '+' :: rest => rest
    | _ => s
  (digits? base body).filter (· ≤ max)

/-- The number that the text writes with an optional sign, if it lies between `-min` and `max`. -/
def signed? (base min max : Nat) (s : List Char) : Option Int :=
  match s with
  | '-' :: rest => ((digits? base rest).filter (· ≤ min)).map fun n => -(n : Int)
  | _ => (unsigned? base max s).map fun n => (n : Int)

/-- A number of a machine word, in decimal. -/
def word? (s : List Char) : Option Nat :=
  unsigned? 10 wordMax s

end RuleDelta.Text

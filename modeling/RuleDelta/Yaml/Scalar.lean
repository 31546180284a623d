import RuleDelta.Yaml.Error
import RuleDelta.Yaml.Value

/-!
# What plain scalars mean

A scalar without quotes may be null, a truth value or a number; all else is a text.

* `isNull`, `bool?`, `int?` and `float?` are the four forms;
* `resolve` is the value of a plain scalar.
-/

namespace RuleDelta.Yaml

open Text

/-- The spellings of null. -/
def isNull (s : List Char) : Bool :=
  ["null", "Null", "NULL", "~"].contains (String.ofList s)

/-- The truth value that the text spells. -/
def bool? (s : List Char) : Option Bool :=
  let s := String.ofList s
  if ["true", "True", "TRUE"].contains s then some true
  else if ["false", "False", "FALSE"].contains s then some false
  else none

/-- Digits with a zero in front: a text and no number. -/
def hasLeadingZero (s : List Char) : Bool :=
  let body := match s with
    | '+' :: rest => rest
    | '-' :: rest => rest
    | _ => s
  match body with
  | '0' :: rest => !rest.isEmpty && rest.all Char.isDigit
  | _ => false

/-- The base and the digits of a number with a base in front of it. -/
def baseDigits? (s : List Char) : Option (Nat × List Char) :=
  match s with
  | '0' :: 'x' :: rest => some (16, rest)
  | '0' :: 'o' :: rest => some (8, rest)
  | '0' :: 'b' :: rest => some (2, rest)
  | _ => none

/-- The magnitude that the text writes without a sign. -/
def magnitude? (s : List Char) : Option Nat :=
  match baseDigits? s with
  | some (base, rest) => digits? base rest
  | none => if hasLeadingZero s then none else digits? 10 s

/-- The whole number that the text writes. -/
def int? (s : List Char) : Option Int :=
  match s with
  | '-' :: rest => (magnitude? rest).map fun n => -(n : Int)
  | '+' :: rest => (magnitude? rest).map fun n => (n : Int)
  | _ => (magnitude? s).map fun n => (n : Int)

/-- The bits of a finite decimal; one beyond the largest binary number is none. -/
def finiteBits? (s : List Char) : Option UInt64 := do
  let bits := (← Decimal.read? s).toBits
  if bits = Decimal.infinityBits then none else some bits

/-- The spellings of infinity. -/
def isInfinity (s : List Char) : Bool :=
  [".inf", ".Inf", ".INF"].contains (String.ofList s)

/-- The bits of the binary number that the text writes. -/
def float? (s : List Char) : Option UInt64 :=
  match s with
  | '-' :: rest =>
    if isInfinity rest then some (Decimal.signBit ||| Decimal.infinityBits)
    else (finiteBits? rest).map fun bits => Decimal.signBit ||| bits
  | '+' :: rest => if isInfinity rest then some Decimal.infinityBits else finiteBits? rest
  | _ =>
    if isInfinity s then some Decimal.infinityBits
    else if [".nan", ".NaN", ".NAN"].contains (String.ofList s) then some Decimal.nanBits
    else finiteBits? s

/-- The largest magnitude of a whole number that is read as such, with its sign. -/
def wideMax (negative : Bool) : Nat :=
  if negative then Nat.pow 2 127 else Nat.pow 2 128 - 1

/-- The value of a whole number. One that no word holds is a fault, and one that two words do not
hold is no whole number. -/
def intValue? (n : Int) : Option (Except Problem Value) :=
  if wideMax (n < 0) < n.natAbs then none
  else if -0x8000000000000000 ≤ n && n ≤ wordMax then some (.ok (.int n))
  else some (.error .integerTooLarge)

/-- The value of a plain scalar. -/
def resolve (s : List Char) : Except Problem Value :=
  if s.isEmpty || isNull s then .ok .null
  else
    match bool? s with
    | some b => .ok (.bool b)
    | none =>
      match (int? s).bind intValue? with
      | some value => value
      | none =>
        match if hasLeadingZero s then none else float? s with
        | some bits => .ok (.float bits)
        | none => .ok (.string (String.ofList s))

end RuleDelta.Yaml

import RuleDelta.Text.Numeral

/-!
# Decimals as binary numbers of 64 bits

`Decimal` is a number written in decimal, `m · 10 ^ e`. `Decimal.toBits` gives the bits of the
nearest binary number of double precision; of two equally near ones, that with the even last bit.

* `read?` reads a decimal without its sign;
* `toBits` rounds it; a number beyond the largest one becomes infinity.
-/

namespace RuleDelta

open Text

/-- The number `mantissa · 10 ^ exponent`. -/
structure Decimal where
  mantissa : Nat
  exponent : Int
  deriving DecidableEq, Repr

namespace Decimal

/-- The bits of positive infinity. -/
def infinityBits : UInt64 := 0x7FF0000000000000

/-- The bits of a number that is not a number. -/
def nanBits : UInt64 := 0x7FF8000000000000

/-- The bit of the sign. -/
def signBit : UInt64 := 0x8000000000000000

/-- The whole number nearest to a quotient; of two equally near ones, the even one. -/
def roundDiv (num den : Nat) : Nat :=
  let q := num / den
  let r := num % den
  if 2 * r < den then q
  else if 2 * r > den then q + 1
  else if q % 2 = 0 then q else q + 1

/-- The greatest `k` with `2 ^ k ≤ num / den`, for positive numbers. -/
def logDiv (num den : Nat) : Int :=
  let k : Int := (num.log2 : Int) - den.log2
  let holds := if 0 ≤ k then den * Nat.pow 2 k.toNat ≤ num else den ≤ num * Nat.pow 2 (-k).toNat
  if holds then k else k - 1

/-- The bits of the quotient of two positive numbers. -/
def quotientBits (num den : Nat) : UInt64 :=
  let k := max (logDiv num den - 52) (-1074)
  let q :=
    if 0 ≤ k then roundDiv num (den * Nat.pow 2 k.toNat)
    else roundDiv (num * Nat.pow 2 (-k).toNat) den
  let bits := (k + 1074).toNat * 0x10000000000000 + q
  if bits < infinityBits.toNat then UInt64.ofNat bits else infinityBits

/-- The number of decimal digits. -/
def digitCount (n : Nat) : Nat :=
  (Nat.toDigits 10 n).length

/-- The bits of the nearest binary number. -/
def toBits (d : Decimal) : UInt64 :=
  let size := digitCount d.mantissa + d.exponent
  if d.mantissa = 0 || size < -330 then 0
  else if size > 310 then infinityBits
  else if 0 ≤ d.exponent then quotientBits (d.mantissa * Nat.pow 10 d.exponent.toNat) 1
  else quotientBits d.mantissa (Nat.pow 10 (-d.exponent).toNat)

/-- The exponent behind its letter: digits with an optional sign. -/
def readExponent? (s : List Char) : Option Int :=
  match s with
  | '-' :: rest => (digits? 10 rest).map fun n => -(n : Int)
  | '+' :: rest => (digits? 10 rest).map fun n => (n : Int)
  | _ => (digits? 10 s).map fun n => (n : Int)

/-- The decimal without a sign that the text writes: digits with at most one point among them, at
least one digit, and at most one exponent. -/
def read? (s : List Char) : Option Decimal := do
  let whole := s.takeWhile Char.isDigit
  let rest := s.dropWhile Char.isDigit
  let (fraction, rest) :=
    match rest with
    | '.' :: rest => (rest.takeWhile Char.isDigit, rest.dropWhile Char.isDigit)
    | _ => ([], rest)
  let mantissa ← digits? 10 (whole ++ fraction)
  let exponent ←
    match rest with
    | [] => some 0
    | c :: rest => if c == 'e' || c == 'E' then readExponent? rest else none
  return ⟨mantissa, exponent - fraction.length⟩

end Decimal

end RuleDelta

import RuleDelta.Text.Numeral

/-!
# Numerals are read back

The decimal digits of a number of a machine word are read as that number, and a larger one is not
read at all.
-/

namespace RuleDelta.Text

theorem digitsFrom?_append (base value : Nat) (front back : List Char) :
    digitsFrom? base value (front ++ back) =
      (digitsFrom? base value front).bind fun v => digitsFrom? base v back := by
  induction front generalizing value with
  | nil => rfl
  | cons c front ih =>
    cases hc : digitIn? base c with
    | none => simp [digitsFrom?, hc]
    | some d => simp [digitsFrom?, hc, ih]

theorem digitIn?_digitChar : ∀ d < 10, digitIn? 10 (Nat.digitChar d) = some d := by
  decide

/-- The digits of a number in a base are read back, however they are spelled. The induction is on
the digits, from the last one on. -/
theorem digitsFrom?_map_toDigits {base : Nat} (hbase : 1 < base) {spell : Char → Char}
    (hspell : ∀ d < base, digitIn? base (spell (Nat.digitChar d)) = some d) (n : Nat) :
    digitsFrom? base 0 ((Nat.toDigits base n).map spell) = some n := by
  induction n using Nat.strongRecOn with
  | ind n ih =>
    have hd := hspell (n % base) (Nat.mod_lt n (by omega))
    by_cases hn : n < base
    · rw [Nat.mod_eq_of_lt hn] at hd
      simp [Nat.toDigits_of_lt_base hn, digitsFrom?, hd]
    · have hvalue : n / base * base + n % base = n := Nat.div_add_mod' n base
      have hfewer : n / base < n := Nat.div_lt_self (by omega) hbase
      rw [Nat.toDigits_of_base_le hbase (by omega), List.map_append, digitsFrom?_append,
        ih (n / base) hfewer]
      simp [digitsFrom?, hd, hvalue]

theorem digitsFrom?_toDigits (n : Nat) : digitsFrom? 10 0 (Nat.toDigits 10 n) = some n := by
  have h : digitsFrom? 10 0 ((Nat.toDigits 10 n).map id) = some n :=
    digitsFrom?_map_toDigits (by decide) digitIn?_digitChar n
  rwa [List.map_id] at h

theorem digits?_toDigits (n : Nat) : digits? 10 (Nat.toDigits 10 n) = some n := by
  have hne : (Nat.toDigits 10 n).isEmpty = false := by simp [Nat.toDigits_ne_nil]
  rw [digits?, hne, if_neg Bool.false_ne_true, digitsFrom?_toDigits]

/-- A character that is no digit is not among the digits of a number. -/
theorem not_mem_toDigits {c : Char} (h : c.isDigit = false) (n : Nat) : c ∉ Nat.toDigits 10 n := by
  intro hmem
  have := Nat.isDigit_of_mem_toDigits (by decide) (by decide) hmem
  simp [h] at this

/-- Only the digits of zero start with one. -/
theorem head?_toDigits_ne_zero {n : Nat} (h : 0 < n) : (Nat.toDigits 10 n).head? ≠ some '0' := by
  induction n using Nat.strongRecOn with
  | ind n ih =>
    by_cases hn : n < 10
    · have hdigit : ∀ d < 10, 0 < d → Nat.digitChar d ≠ '0' := by decide
      simpa [Nat.toDigits_of_lt_base hn] using hdigit n hn h
    · have hfewer := ih (n / 10) (by omega) (by omega)
      rw [Nat.toDigits_of_base_le (by decide) (by omega), List.head?_append]
      cases hhead : (Nat.toDigits 10 (n / 10)).head? with
      | none => exact absurd (List.head?_eq_none_iff.mp hhead) Nat.toDigits_ne_nil
      | some c => rwa [hhead] at hfewer

/-- **The digits of a number are read back** when it is a number of a machine word. -/
theorem word?_toDigits (n : Nat) :
    word? (Nat.toDigits 10 n) = if n ≤ wordMax then some n else none := by
  have hbody : unsigned? 10 wordMax (Nat.toDigits 10 n) =
      (digits? 10 (Nat.toDigits 10 n)).filter (· ≤ wordMax) := by
    unfold unsigned?
    split
    · rename_i rest hplus
      have : '+' ∈ Nat.toDigits 10 n := by simp [hplus]
      exact absurd this (not_mem_toDigits (by decide) n)
    · rfl
  rw [word?, hbody, digits?_toDigits, Option.filter_some]
  simp

end RuleDelta.Text

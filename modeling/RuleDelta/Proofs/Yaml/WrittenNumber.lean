import RuleDelta.Proofs.Text.Numeral
import RuleDelta.Proofs.Yaml.WrittenMapping
import RuleDelta.Yaml.Scalar

/-!
# Numbers are read back

A number is written as its decimal digits without quotes, and such a scalar is a number.

* `Scalar.ofNat` is a number as a text;
* `int?_toDigits` reads it.
-/

namespace RuleDelta.Yaml

open Text

/-- A number as a text. -/
def Scalar.ofNat (n : Nat) : Scalar where
  text := Nat.toDigits 10 n
  style := .plain
  fits := fits_plain_of_isKeyChar Nat.toDigits_ne_nil fun c hc => by
    have := Nat.isDigit_of_mem_toDigits (by decide) (by decide) hc
    simp [isKeyChar, Char.isAlphanum, this]

theorem toDigits_ne_cons {c : Char} (h : c.isDigit = false) (n : Nat) (rest : List Char) :
    Nat.toDigits 10 n ≠ c :: rest := by
  intro heq
  exact not_mem_toDigits h n (by simp [heq])

theorem hasLeadingZero_toDigits (n : Nat) : hasLeadingZero (Nat.toDigits 10 n) = false := by
  dsimp only [hasLeadingZero]
  split
  · rename_i rest hbody
    split at hbody
    · exact absurd ‹_› (toDigits_ne_cons (by decide) n _)
    · exact absurd ‹_› (toDigits_ne_cons (by decide) n _)
    · by_cases hn : n = 0
      · subst hn
        cases hbody
        rfl
      · exact absurd (congrArg List.head? hbody) (head?_toDigits_ne_zero (Nat.pos_of_ne_zero hn))
  · rfl

theorem magnitude?_toDigits (n : Nat) : magnitude? (Nat.toDigits 10 n) = some n := by
  have hbase : baseDigits? (Nat.toDigits 10 n) = none := by
    have hletter : ∀ {c d : Char} {rest : List Char}, d.isDigit = false →
        Nat.toDigits 10 n ≠ c :: d :: rest := by
      intro c d rest hd heq
      exact not_mem_toDigits hd n (by simp [heq])
    unfold baseDigits?
    split
    · exact absurd ‹_› (hletter (by decide))
    · exact absurd ‹_› (hletter (by decide))
    · exact absurd ‹_› (hletter (by decide))
    · rfl
  rw [magnitude?, hbase, hasLeadingZero_toDigits]
  exact digits?_toDigits n

/-- **The digits of a number are that number.** -/
theorem int?_toDigits (n : Nat) : int? (Nat.toDigits 10 n) = some (n : Int) := by
  unfold int?
  split
  · exact absurd ‹_› (toDigits_ne_cons (by decide) n _)
  · exact absurd ‹_› (toDigits_ne_cons (by decide) n _)
  · rw [magnitude?_toDigits]
    rfl

end RuleDelta.Yaml

import RuleDelta.Proofs.Text.Blank
import RuleDelta.Proofs.Text.Split
import RuleDelta.RuleFile.Line

/-!
# Lines without text

A blank line and a comment hold no key for rules, and they start no item
(`rulesKey?_of_isBlankOrComment`, `isListItem_of_isBlankOrComment`).
-/

namespace RuleDelta.RuleFile

open Text

variable {line : List Char}

theorem isBlankOrComment_of_allBlank (h : allBlank line = true) :
    isBlankOrComment line = true := by
  rw [isBlankOrComment, trimStart, dropWhile_isBlank_eq_nil.mpr h]

theorem trimStart_unindented (line : List Char) : trimStart (unindented line) = trimStart line := by
  induction line with
  | nil => rfl
  | cons c line ih =>
    by_cases hc : c = ' '
    · subst hc
      exact ih
    · simp [unindented, hc]

/-- Behind its spaces a line without text starts with no word of text. -/
theorem dropWord?_unindented (h : isBlankOrComment line = true) {w : Char}
    (hvisible : isBlank w = false) (hcomment : w ≠ '#') (ws : List Char) :
    dropWord? (w :: ws) (unindented line) = none := by
  cases hs : unindented line with
  | nil => rfl
  | cons c rest =>
    refine dropWord?_of_head_ne (fun heq => hcomment ?_) ws rest
    have htrim : trimStart line = w :: rest := by
      rw [← trimStart_unindented, hs, ← heq]
      simp [trimStart, hvisible]
    rw [isBlankOrComment, htrim] at h
    exact of_decide_eq_true h

theorem rulesKey?_of_isBlankOrComment (h : isBlankOrComment line = true) :
    rulesKey? line = none := by
  have hdash : dropWord? ['-', ' '] (unindented line) = none :=
    dropWord?_unindented h (by decide) (by decide) [' ']
  have hwords : ∀ word ∈ rulesKeyWords, dropWord? word (unindented line) = none := by
    intro word hword
    have hhead : ∀ word ∈ rulesKeyWords,
        isBlank (word.headD '#') = false ∧ word.headD '#' ≠ '#' := by
      decide
    obtain ⟨hvisible, hcomment⟩ := hhead word hword
    cases word with
    | nil => exact absurd rfl hcomment
    | cons w ws => exact dropWord?_unindented h hvisible hcomment ws
  unfold rulesKey?
  simp only [hdash, List.findSome?_eq_none_iff.mpr hwords]
  rfl

theorem isListItem_of_isBlankOrComment (h : isBlankOrComment line = true) :
    isListItem (unindented line) = false := by
  have hdash : ∀ ws, dropWord? ('-' :: ws) (unindented line) = none := fun ws =>
    dropWord?_unindented h (by decide) (by decide) ws
  have hne : unindented line ≠ ['-'] := by
    intro heq
    have hself := hdash []
    rw [heq] at hself
    cases hself
  simp [isListItem, startsWith, hdash, hne]

/-- An item has text. -/
theorem isBlankOrComment_of_isListItem (h : isListItem (unindented line) = true) :
    isBlankOrComment line = false := by
  refine Bool.eq_false_iff.mpr fun hblank => ?_
  rw [isListItem_of_isBlankOrComment hblank] at h
  cases h

/-- A key for rules has text. -/
theorem isBlankOrComment_of_rulesKey? {key : RulesKey} (h : rulesKey? line = some key) :
    isBlankOrComment line = false := by
  refine Bool.eq_false_iff.mpr fun hblank => ?_
  rw [rulesKey?_of_isBlankOrComment hblank] at h
  cases h

end RuleDelta.RuleFile

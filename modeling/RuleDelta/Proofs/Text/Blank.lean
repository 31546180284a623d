import RuleDelta.Text.Blank

/-!
# Blanks at the ends of a text

What trimming leaves of a text depends on the last of its parts that is not blank
(`trimEnd_append`), and a text that starts with a visible character keeps its start
(`trim_of_head`).
-/

namespace RuleDelta.Text

theorem dropWhile_isBlank_eq_nil {s : List Char} :
    s.dropWhile isBlank = [] ↔ allBlank s = true := by
  induction s with
  | nil => simp [allBlank]
  | cons c s ih =>
    by_cases hc : isBlank c = true
    · simp [hc, ih, allBlank]
    · simp [hc, allBlank]

/-- Trimming the end of a text trims its last part, or the part in front if the last is blank. -/
theorem trimEnd_append (front back : List Char) :
    trimEnd (front ++ back) =
      if allBlank back then trimEnd front else front ++ trimEnd back := by
  have hblank : back.reverse.dropWhile isBlank = [] ↔ allBlank back = true := by
    rw [dropWhile_isBlank_eq_nil, allBlank, allBlank, List.all_reverse]
  simp only [trimEnd, List.reverse_append, List.dropWhile_append, List.isEmpty_iff, hblank]
  split <;> simp

theorem trimEnd_append_of_visible {back : List Char} (h : allBlank back = false)
    (front : List Char) : trimEnd (front ++ back) = front ++ trimEnd back := by
  rw [trimEnd_append, h, if_neg Bool.false_ne_true]

theorem trimEnd_append_of_blank {back : List Char} (h : allBlank back = true)
    (front : List Char) : trimEnd (front ++ back) = trimEnd front := by
  rw [trimEnd_append, if_pos h]

/-- Trimming the end of a field behind a blank: nothing is left of the blank if the field is blank. -/
theorem trimEnd_append_cons {c : Char} (h : isBlank c = true) (front field : List Char) :
    trimEnd (front ++ c :: field) =
      if allBlank field then trimEnd front else front ++ c :: trimEnd field := by
  have hblank : allBlank (c :: field) = allBlank field := by rw [allBlank, List.all_cons, h]; rfl
  rw [trimEnd_append, hblank]
  split
  · rfl
  · rename_i hfield
    rw [← List.singleton_append, trimEnd_append_of_visible (by simpa using hfield)]
    rfl

/-- A text that ends with a visible character keeps its end. -/
theorem trimEnd_concat {c : Char} (h : isBlank c = false) (s : List Char) :
    trimEnd (s ++ [c]) = s ++ [c] := by
  rw [trimEnd_append_of_visible (by simp [allBlank, h])]
  simp [trimEnd, h]

/-- A text that starts with a visible character keeps its start. -/
theorem trim_of_head {c : Char} (h : isBlank c = false) (s : List Char) :
    trim (c :: s) = trimEnd (c :: s) := by
  simp [trim, trimStart, h]

theorem trimEnd_eq_nil_iff {s : List Char} : trimEnd s = [] ↔ allBlank s = true := by
  rw [trimEnd, List.reverse_eq_nil_iff, dropWhile_isBlank_eq_nil, allBlank, allBlank,
    List.all_reverse]

theorem allBlank_trimStart (s : List Char) : allBlank (trimStart s) = allBlank s := by
  unfold trimStart
  induction s with
  | nil => rfl
  | cons c s ih =>
    by_cases hc : isBlank c = true
    · rw [List.dropWhile_cons_of_pos hc, ih, allBlank, allBlank, List.all_cons, hc, Bool.true_and]
    · rw [List.dropWhile_cons_of_neg hc]

/-- Trimming leaves nothing of a text of blanks, and only of such a text. -/
theorem trim_eq_nil_iff {s : List Char} : trim s = [] ↔ allBlank s = true := by
  rw [trim, trimEnd_eq_nil_iff, allBlank_trimStart]

/-- Trimming keeps no character that was not there. -/
theorem mem_of_mem_trimEnd {c : Char} {s : List Char} (h : c ∈ trimEnd s) : c ∈ s := by
  have hsuffix := (List.dropWhile_suffix (p := isBlank) (l := s.reverse)).subset
  simpa using hsuffix (List.mem_reverse.mp h)

end RuleDelta.Text

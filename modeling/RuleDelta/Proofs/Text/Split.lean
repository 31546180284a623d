import RuleDelta.Text.Split

/-!
# Where a text is split

A text is split at the first place where a word stands. The lemmas find that place where the text in
front of it cannot hold the word.
-/

namespace RuleDelta.Text

@[simp] theorem dropWord?_append (word rest : List Char) :
    dropWord? word (word ++ rest) = some rest :=
  dropWord?_eq_some_iff.mpr rfl

/-- The first character of a word decides against a text that starts with another one. -/
theorem dropWord?_of_head_ne {w c : Char} (h : w ≠ c) (ws cs : List Char) :
    dropWord? (w :: ws) (c :: cs) = none := by
  simp [dropWord?, h]

/-- A text starts with no word that differs from it at some place of both. -/
theorem dropWord?_append_eq_none {word front : List Char}
    (h : (word.zip front).any (fun p => p.1 != p.2) = true) (rest : List Char) :
    dropWord? word (front ++ rest) = none := by
  induction word generalizing front with
  | nil => simp at h
  | cons w word ih =>
    cases front with
    | nil => simp at h
    | cons c front =>
      by_cases hc : w = c
      · have hzip : (word.zip front).any (fun p => p.1 != p.2) = true := by simpa [hc] using h
        simp [dropWord?, hc, ih hzip]
      · simp [dropWord?, hc]

/-- A text without the separator is its only part. -/
theorem splitAt_eq_singleton {separator : Char} {s : List Char} (h : separator ∉ s) :
    splitAt separator s = [s] := by
  induction s with
  | nil => rfl
  | cons c s ih =>
    have hc : c ≠ separator := fun heq => h (by simp [heq])
    have hs : separator ∉ s := fun hmem => h (List.mem_cons_of_mem _ hmem)
    simp [splitAt, hc, ih hs]

/-- The text in front of the first separator is the first part. -/
theorem splitAt_append {separator : Char} {front : List Char} (h : separator ∉ front)
    (back : List Char) :
    splitAt separator (front ++ separator :: back) = front :: splitAt separator back := by
  induction front with
  | nil => simp [splitAt]
  | cons c front ih =>
    have hc : c ≠ separator := fun heq => h (by simp [heq])
    have hfront : separator ∉ front := fun hmem => h (List.mem_cons_of_mem _ hmem)
    simp [splitAt, hc, ih hfront]

/-- A word of one character stands at the first place of that character. -/
theorem splitFirst?_char {c : Char} {front : List Char} (h : c ∉ front) (back : List Char) :
    splitFirst? [c] (front ++ c :: back) = some (front, back) := by
  induction front with
  | nil => simp [splitFirst?, dropWord?]
  | cons a front ih =>
    have ha : c ≠ a := fun heq => h (by simp [heq])
    have hfront : c ∉ front := fun hmem => h (List.mem_cons_of_mem _ hmem)
    simp [splitFirst?, dropWord?, ha, ih hfront]

/-- A word is not found in a text without its first character. -/
theorem splitFirst?_eq_none {w : Char} {s : List Char} (h : w ∉ s) (ws : List Char) :
    splitFirst? (w :: ws) s = none := by
  induction s with
  | nil => rfl
  | cons a s ih =>
    have ha : w ≠ a := fun heq => h (by simp [heq])
    have hs : w ∉ s := fun hmem => h (List.mem_cons_of_mem _ hmem)
    simp [splitFirst?, dropWord?, ha, ih hs]

/-- A word does not start in a text without its second character, unless it stands at the end. -/
theorem splitFirst?_word {a b : Char} {ws front : List Char} (hab : a ≠ b) (h : b ∉ front)
    (back : List Char) :
    splitFirst? (a :: b :: ws) (front ++ (a :: b :: ws ++ back)) = some (front, back) := by
  induction front with
  | nil =>
    have hdrop := dropWord?_append (a :: b :: ws) back
    simp only [List.cons_append] at hdrop
    simp only [List.nil_append, List.cons_append, splitFirst?, hdrop]
  | cons c front ih =>
    have hfront : b ∉ front := fun hmem => h (List.mem_cons_of_mem _ hmem)
    have hnone : dropWord? (a :: b :: ws) (c :: (front ++ (a :: b :: ws ++ back))) = none := by
      -- the character behind `c` is one of `front` or the first of the word
      cases front with
      | nil => simp [dropWord?, hab.symm]
      | cons d front =>
        have hd : b ≠ d := fun heq => hfront (by simp [heq])
        simp [dropWord?, hd]
    rw [List.cons_append, splitFirst?, hnone, ih hfront]
    rfl

/-- A word stands first where it does, unless it starts in the text in front of that place. -/
theorem splitFirst?_append {word front back : List Char}
    (h : ∀ v, v ≠ [] → v <:+ front → dropWord? word (v ++ (word ++ back)) = none) :
    splitFirst? word (front ++ (word ++ back)) = some (front, back) := by
  induction front with
  | nil =>
    have hdrop := dropWord?_append word back
    rw [List.nil_append]
    cases hword : word ++ back with
    | nil =>
      rw [hword] at hdrop
      rw [splitFirst?, hdrop]
      rfl
    | cons c cs =>
      rw [hword] at hdrop
      rw [splitFirst?, hdrop]
  | cons c front ih =>
    have hnone := h (c :: front) (by simp) (List.suffix_refl _)
    rw [List.cons_append] at hnone ⊢
    have hrest := ih fun v hv hsuffix => h v hv (hsuffix.trans (List.suffix_cons c front))
    rw [splitFirst?, hnone, hrest]
    rfl

theorem dropWord?_isSome_iff {word s : List Char} :
    (dropWord? word s).isSome = true ↔ word <+: s := by
  rw [Option.isSome_iff_exists]
  exact exists_congr fun rest => dropWord?_eq_some_iff.trans eq_comm

/-- A word occurs in a text when the text has it as a part. -/
theorem contains_iff {s word : List Char} : contains s word = true ↔ word <:+: s := by
  unfold contains
  induction s with
  | nil =>
    rw [splitFirst?, Option.isSome_map, dropWord?_isSome_iff, List.prefix_nil, List.infix_nil]
  | cons c s ih =>
    rw [List.infix_cons_iff, ← ih, ← dropWord?_isSome_iff, splitFirst?]
    cases dropWord? word (c :: s) <;> simp

/-- The last place of a word is found where the word does not start again behind its start. -/
theorem splitLast?_append {word front back : List Char}
    (h : ∀ v, v ≠ [] → v <:+ back.reverse →
      dropWord? word.reverse (v ++ (word.reverse ++ front.reverse)) = none) :
    splitLast? word (front ++ (word ++ back)) = some (front, back) := by
  have hsplit := splitFirst?_append h
  rw [splitLast?]
  simp only [List.reverse_append, List.append_assoc, hsplit, Option.map_some, List.reverse_reverse]

/-! ## Parts between separators -/

/-- A character in front of a text that is no separator belongs to the first part. -/
theorem splitAt_cons_of_ne {separator c : Char} (h : c ≠ separator) (s : List Char) :
    ∃ part parts, splitAt separator s = part :: parts ∧
      splitAt separator (c :: s) = (c :: part) :: parts := by
  obtain ⟨part, parts, hparts⟩ := List.exists_cons_of_ne_nil (splitAt_ne_nil separator s)
  exact ⟨part, parts, hparts, by rw [splitAt, if_neg h, hparts]⟩

theorem splitAt_cons_self (separator : Char) (s : List Char) :
    splitAt separator (separator :: s) = [] :: splitAt separator s :=
  if_pos rfl

/-- A text has one part more than it has separators. -/
theorem length_splitAt (separator : Char) (s : List Char) :
    (splitAt separator s).length = s.count separator + 1 := by
  induction s with
  | nil => rfl
  | cons c s ih =>
    by_cases hc : c = separator
    · subst hc
      rw [splitAt_cons_self, List.length_cons, ih, List.count_cons_self]
    · obtain ⟨part, parts, hs, hcons⟩ := splitAt_cons_of_ne hc s
      rw [hs] at ih
      rw [hcons, List.count_cons_of_ne hc, ← ih, List.length_cons, List.length_cons]

/-- No part holds the separator. -/
theorem not_mem_of_mem_splitAt {separator : Char} {part s : List Char}
    (h : part ∈ splitAt separator s) : separator ∉ part := by
  induction s generalizing part with
  | nil =>
    rw [List.mem_singleton.mp h]
    exact List.not_mem_nil
  | cons c s ih =>
    by_cases hc : c = separator
    · subst hc
      rw [splitAt_cons_self] at h
      rcases List.mem_cons.mp h with rfl | h
      · exact List.not_mem_nil
      · exact ih h
    · obtain ⟨first, parts, hs, hcons⟩ := splitAt_cons_of_ne hc s
      rw [hs] at ih
      rw [hcons] at h
      rcases List.mem_cons.mp h with rfl | h
      · have hfirst := ih List.mem_cons_self
        simp [Ne.symm hc, hfirst]
      · exact ih (List.mem_cons_of_mem _ h)

/-- The parts of a text make it up. -/
theorem intercalate_splitAt (separator : Char) (s : List Char) :
    [separator].intercalate (splitAt separator s) = s := by
  induction s with
  | nil => rfl
  | cons c s ih =>
    by_cases hc : c = separator
    · subst hc
      obtain ⟨part, parts, hs⟩ := List.exists_cons_of_ne_nil (splitAt_ne_nil c s)
      rw [splitAt_cons_self, hs, List.intercalate_cons_cons, ← hs, ih]
      rfl
    · obtain ⟨part, parts, hs, hcons⟩ := splitAt_cons_of_ne hc s
      rw [hs] at ih
      rw [hcons]
      cases parts <;> simp_all [List.intercalate_cons_cons]

/-- Parts are read back from the text that they make up. -/
theorem splitAt_intercalate {separator : Char} {parts : List (List Char)} (hne : parts ≠ [])
    (h : ∀ part ∈ parts, separator ∉ part) :
    splitAt separator ([separator].intercalate parts) = parts := by
  induction parts with
  | nil => exact absurd rfl hne
  | cons part parts ih =>
    obtain ⟨hpart, hparts⟩ := List.forall_mem_cons.mp h
    cases parts with
    | nil => rw [List.intercalate_singleton, splitAt_eq_singleton hpart]
    | cons next parts =>
      rw [List.intercalate_cons_cons, List.append_assoc, List.singleton_append,
        splitAt_append hpart, ih (List.cons_ne_nil _ _) hparts]

theorem not_mem_intercalate {c : Char} {separator : List Char} {parts : List (List Char)}
    (hseparator : c ∉ separator) (h : ∀ part ∈ parts, c ∉ part) :
    c ∉ separator.intercalate parts := by
  induction parts with
  | nil => simp
  | cons part parts ih =>
    obtain ⟨hpart, hparts⟩ := List.forall_mem_cons.mp h
    cases parts with
    | nil => simpa using hpart
    | cons next parts =>
      rw [List.intercalate_cons_cons]
      simp [hpart, hseparator, ih hparts]

/-- Parts that are not empty can be told from the text that they make up. -/
theorem eq_of_intercalate_eq {separator : Char} {parts parts' : List (List Char)}
    (hne : parts ≠ []) (hempty : [] ∉ parts) (h : ∀ part ∈ parts, separator ∉ part)
    (h' : ∀ part ∈ parts', separator ∉ part)
    (heq : [separator].intercalate parts = [separator].intercalate parts') : parts' = parts := by
  have hsplit := List.splitOn_intercalate separator h hne
  by_cases hne' : parts' = []
  · rw [heq, hne'] at hsplit
    have hself : parts = [[]] := by
      rw [← hsplit]
      simp
    exact absurd (by simp [hself]) hempty
  · rw [← hsplit, heq]
    exact (List.splitOn_intercalate separator h' hne').symm

end RuleDelta.Text

import Mathlib.Data.List.Basic

/-!
# First occurrences

`List.eraseDups` keeps each element of a list where it first comes up.

* `foldl_addNew` says that the same elements are found when a list grows by those that it does not
  have yet;
* `filter_eraseDups` says that elements can be taken out before or after their repetitions are;
* `pairwise_idxOf_eraseDups` is the order of what is kept, so no element is kept twice.
-/

namespace RuleDelta

variable {α : Type*} [BEq α] [LawfulBEq α]

/-- A list with an element behind it, unless it has the element already. -/
def addNew (found : List α) (a : α) : List α :=
  if found.contains a then found else found ++ [a]

/-- The elements that are added are those that are not there yet, each once. The induction is on
these, whatever is there already. -/
theorem foldl_addNew (more found : List α) :
    more.foldl addNew found = found ++ (more.filter fun a => !found.contains a).eraseDups := by
  induction more generalizing found with
  | nil => simp
  | cons a more ih =>
    rw [List.foldl_cons, ih, addNew]
    by_cases ha : found.contains a = true
    · rw [if_pos ha, List.filter_cons_of_neg (by simpa using ha)]
    · have hrest : (more.filter fun b => !(found ++ [a]).contains b) =
          (more.filter fun b => !found.contains b).filter fun b => !b == a := by
        rw [List.filter_filter]
        refine List.filter_congr fun b _ => ?_
        rw [List.contains_append, List.contains_cons, List.contains_nil, Bool.or_false,
          Bool.not_or, Bool.and_comm]
      rw [if_neg ha, List.filter_cons_of_pos (by simpa using ha), List.eraseDups_cons, hrest,
        List.append_assoc, List.singleton_append]

/-- Elements can be taken out before or after their repetitions are. Behind the first one its
repetitions are taken out, which leaves a shorter list, so the induction is on the length. -/
theorem filter_eraseDups (keep : α → Bool) (all : List α) :
    (all.filter keep).eraseDups = all.eraseDups.filter keep := by
  induction hlength : all.length using Nat.strongRecOn generalizing all with
  | ind n ih =>
    cases all with
    | nil => rfl
    | cons a rest =>
      have hshorter : (rest.filter fun b => !b == a).length < n :=
        hlength ▸ Nat.lt_succ_of_le (List.length_filter_le _ _)
      rw [List.eraseDups_cons]
      by_cases ha : keep a = true
      · rw [List.filter_cons_of_pos ha, List.filter_cons_of_pos ha, List.eraseDups_cons,
          ← ih _ hshorter _ rfl, List.filter_filter, List.filter_filter]
        simp only [Bool.and_comm]
      · have hrest : ((rest.filter fun b => !b == a).filter keep) = rest.filter keep := by
          rw [List.filter_filter]
          refine List.filter_congr fun b _ => ?_
          by_cases hb : b = a <;> simp [hb, ha]
        rw [List.filter_cons_of_neg ha, List.filter_cons_of_neg ha, ← ih _ hshorter _ rfl, hrest]

/-- **The elements are kept in the order in which they first come up.** -/
theorem pairwise_idxOf_eraseDups (all : List α) :
    all.eraseDups.Pairwise fun a b => all.idxOf a < all.idxOf b := by
  induction all with
  | nil => simp
  | cons a rest ih =>
    rw [List.eraseDups_cons, filter_eraseDups]
    have hbehind : ∀ b ∈ rest.eraseDups.filter fun b => !b == a,
        (a :: rest).idxOf b = rest.idxOf b + 1 := by
      intro b hb
      have hne : a ≠ b := by
        rintro rfl
        simp at hb
      exact List.idxOf_cons_ne _ hne
    refine List.pairwise_cons.mpr ⟨fun b hb => ?_, ?_⟩
    · rw [List.idxOf_cons_self, hbehind b hb]
      exact Nat.succ_pos _
    · refine (ih.filter _).imp_of_mem fun {b c} hb hc hlt => ?_
      rw [hbehind b hb, hbehind c hc]
      exact Nat.succ_lt_succ hlt

theorem nodup_eraseDups (all : List α) : all.eraseDups.Nodup :=
  (pairwise_idxOf_eraseDups all).imp fun hlt heq => by
    subst heq
    exact Nat.lt_irrefl _ hlt

/-- A list without repetitions stays as it is. -/
theorem eraseDups_eq_self {all : List α} (h : all.Nodup) : all.eraseDups = all := by
  induction all with
  | nil => rfl
  | cons a rest ih =>
    obtain ⟨ha, hrest⟩ := List.nodup_cons.mp h
    have hkeep : (rest.filter fun b => !b == a) = rest := by
      refine List.filter_eq_self.mpr fun b hb => ?_
      have hne : b ≠ a := fun heq => ha (heq ▸ hb)
      simpa using hne
    rw [List.eraseDups_cons, hkeep, ih hrest]

end RuleDelta

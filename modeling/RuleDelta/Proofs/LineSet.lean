import RuleDelta.LineSet
import RuleDelta.Proofs.FirstOccurrence

/-!
# Laws of sets of lines

* `insert` keeps a list ascending and adds one member, so `canonical` is the ascending list of the
  members of a list, each once;
* `intersect` keeps the common members of two lists, each where it first comes up in the first list
  (`FirstCommon`), and the pass over the second list adds nothing (`intersect_firsts_perm`).
-/

namespace RuleDelta.LineSet

/-! ## One more member -/

@[simp] theorem mem_insert {x line : Nat} {l : List Nat} :
    x ∈ insert line l ↔ x = line ∨ x ∈ l := by
  induction l with
  | nil => simp [insert]
  | cons a rest ih =>
    unfold insert
    by_cases hlt : line < a
    · simp [hlt]
    · by_cases heq : line = a
      · simp [heq]
      · simp only [hlt, heq, if_false, List.mem_cons, ih]
        exact or_left_comm

theorem insert_ascending {line : Nat} {l : List Nat} (h : l.Pairwise (· < ·)) :
    (insert line l).Pairwise (· < ·) := by
  induction l with
  | nil => exact List.pairwise_singleton _ _
  | cons a rest ih =>
    obtain ⟨hfirst, hrest⟩ := List.pairwise_cons.mp h
    unfold insert
    split
    · rename_i hlt
      refine List.pairwise_cons.mpr ⟨fun x hx => ?_, h⟩
      rcases List.mem_cons.mp hx with rfl | hx
      · exact hlt
      · exact Nat.lt_trans hlt (hfirst x hx)
    · split
      · exact h
      · refine List.pairwise_cons.mpr ⟨fun x hx => ?_, ih hrest⟩
        rcases mem_insert.mp hx with rfl | hx
        · omega
        · exact hfirst x hx

/-- An ascending list is known by its members. -/
theorem eq_of_ascending {l m : List Nat} (hl : l.Pairwise (· < ·)) (hm : m.Pairwise (· < ·))
    (h : ∀ x, x ∈ l ↔ x ∈ m) : l = m := by
  have hnodup : ∀ {k : List Nat}, k.Pairwise (· < ·) → k.Nodup := fun hk => hk.imp Nat.ne_of_lt
  have hperm : l.Perm m := (List.perm_ext_iff_of_nodup (hnodup hl) (hnodup hm)).mpr h
  exact hperm.eq_of_pairwise (fun a b _ _ hab hba => absurd hab (Nat.lt_asymm hba)) hl hm

/-! ## The members of a list -/

@[simp] theorem mem_canonical {x : Nat} {l : List Nat} : x ∈ canonical l ↔ x ∈ l := by
  induction l with
  | nil => rfl
  | cons a rest ih => rw [canonical, List.foldr_cons, mem_insert, ← canonical, ih, List.mem_cons]

theorem canonical_ascending (l : List Nat) : (canonical l).Pairwise (· < ·) := by
  induction l with
  | nil => exact .nil
  | cons a rest ih => exact insert_ascending ih

/-- Lists with the same members have the same ascending list of them. -/
theorem canonical_congr {l m : List Nat} (h : ∀ x, x ∈ l ↔ x ∈ m) : canonical l = canonical m :=
  eq_of_ascending (canonical_ascending l) (canonical_ascending m) fun x => by
    rw [mem_canonical, mem_canonical, h]

/-! ## Common members -/

/-- A pass adds those members of its list that the other list has. -/
theorem collect_eq_foldl (other l found : List Nat) :
    collect other l found = (l.filter other.contains).foldl addNew found := by
  induction l generalizing found with
  | nil => rfl
  | cons a rest ih =>
    rw [collect]
    by_cases hother : other.contains a = true
    · rw [List.filter_cons_of_pos hother, List.foldl_cons, addNew, hother, Bool.true_and]
      by_cases hfound : found.contains a = true
      · rw [hfound, Bool.not_true, if_neg Bool.false_ne_true, if_pos rfl, ih]
      · rw [if_neg hfound, if_pos (by simpa using hfound), ih]
    · rw [List.filter_cons_of_neg hother, eq_false_of_ne_true hother, Bool.false_and,
        if_neg Bool.false_ne_true, ih]

theorem collect_eq (other l found : List Nat) :
    collect other l found =
      found ++ ((l.filter other.contains).filter fun x => !found.contains x).eraseDups := by
  rw [collect_eq_foldl, foldl_addNew]

/-- The first pass finds the common members. -/
theorem collect_nil (other l : List Nat) :
    collect other l [] = (l.filter other.contains).eraseDups := by
  have hall : ((l.filter other.contains).filter fun x => !([] : List Nat).contains x) =
      l.filter other.contains := List.filter_eq_self.mpr fun _ _ => rfl
  rw [collect_eq, hall, List.nil_append]

/-- A pass whose members are all found adds nothing. -/
theorem collect_eq_found {other l found : List Nat} (h : ∀ x ∈ l, x ∈ other → x ∈ found) :
    collect other l found = found := by
  have hnone : ((l.filter other.contains).filter fun x => !found.contains x) = [] := by
    refine List.filter_eq_nil_iff.mpr fun x hx => ?_
    obtain ⟨hx, hother⟩ := List.mem_filter.mp hx
    simpa using h x hx (by simpa using hother)
  rw [collect_eq, hnone, List.eraseDups_nil, List.append_nil]

/-- The second pass adds nothing to what the first one finds. -/
theorem intersect_eq (a b : List Nat) : intersect a b = (a.filter b.contains).eraseDups := by
  rw [intersect, ← collect_nil]
  refine collect_eq_found fun x hx ha => ?_
  rw [collect_nil, List.mem_eraseDups, List.mem_filter]
  exact ⟨ha, by simpa using hx⟩

/-- **The common members of a list without duplicates**, in its order. -/
theorem intersect_of_nodup {a b : List Nat} (h : a.Nodup) :
    intersect a b = a.filter b.contains := by
  rw [intersect_eq, eraseDups_eq_self (h.filter _)]

/-- The common members of two lists, each where it first comes up in the first of them. -/
structure FirstCommon (a b common : List Nat) : Prop where
  /-- The members that the second list does not have are left out, then the repetitions. -/
  eq_eraseDups : common = (a.filter b.contains).eraseDups
  nodup : common.Nodup
  mem_iff : ∀ line, line ∈ common ↔ line ∈ a ∧ line ∈ b
  /-- The members stand in the order of the first list. -/
  ordered : common.Pairwise fun x y => a.idxOf x < a.idxOf y
  /-- So they ascend if the first list does, with or without repetitions. -/
  ascending : a.Pairwise (· ≤ ·) → common.Pairwise (· < ·)

/-- Members ascend in the order in which they come up in a list that does. -/
theorem lt_of_idxOf_lt {l : List Nat} (h : l.Pairwise (· ≤ ·)) {x y : Nat} (hy : y ∈ l)
    (hlt : l.idxOf x < l.idxOf y) : x < y := by
  have hiy := List.idxOf_lt_length_of_mem hy
  have hle := List.pairwise_iff_getElem.mp h _ _ (Nat.lt_trans hlt hiy) hiy hlt
  rw [List.getElem_idxOf, List.getElem_idxOf] at hle
  refine Nat.lt_of_le_of_ne hle ?_
  rintro rfl
  exact Nat.lt_irrefl _ hlt

theorem firstCommon_intersect (a b : List Nat) : FirstCommon a b (intersect a b) := by
  have hmem : ∀ line, line ∈ intersect a b ↔ line ∈ a ∧ line ∈ b := fun line => by
    rw [intersect_eq, List.mem_eraseDups, List.mem_filter, List.contains_iff_mem]
  have hordered : (intersect a b).Pairwise fun x y => a.idxOf x < a.idxOf y := by
    rw [intersect_eq, filter_eraseDups]
    exact (pairwise_idxOf_eraseDups a).filter _
  exact {
    eq_eraseDups := intersect_eq a b
    nodup := intersect_eq a b ▸ nodup_eraseDups _
    mem_iff := hmem
    ordered := hordered
    ascending := fun h => hordered.imp_of_mem fun _ hy hlt =>
      lt_of_idxOf_lt h ((hmem _).mp hy).1 hlt }

/-- **What two lists have in common does not depend on their order, up to its own.** The lines that
`intersect` keeps are the common ones, each where it first comes up in the first list; the pass over
the second list adds none to those that the pass over the first has found. -/
theorem intersect_firsts_perm (a b : List Nat) :
    FirstCommon a b (intersect a b) ∧
      collect a b (collect b a []) = collect b a [] ∧
      (intersect a b).Perm (intersect b a) := by
  have hab := firstCommon_intersect a b
  have hba := firstCommon_intersect b a
  refine ⟨hab, ?_, ?_⟩
  · exact (intersect_eq a b).trans (collect_nil b a).symm
  · refine (List.perm_ext_iff_of_nodup hab.nodup hba.nodup).mpr fun line => ?_
    rw [hab.mem_iff, hba.mem_iff, and_comm]

end RuleDelta.LineSet

import Mathlib.Data.List.Basic
import RuleDelta.Proofs.Change.Pairing

/-!
# The rules of one kind and name

The step of a rule of the new side looks only at the rules of the pool that have its kind and name,
and moves no others. So what becomes of the rules of one kind and name does not depend on where the
others stand.

* `Entry.key` is the kind and the name of an entry, and `ofKey` are the entries of a pool with them;
* `PairStep.frame` says that a step leaves the entries of other keys as they are;
* `PairStep.restrict` says that it is a step of the entries of its own key alone;
* `AgreeByKey` says that two pools have the same entries of every key in the same order, and
  `AgreeByKey.step` that such pools stay so, with the same pairings.
-/

namespace RuleDelta

/-- The kind and the name of an entry. -/
def Entry.key (e : Entry) : RuleKind × String :=
  (e.rule.kind, e.rule.name)

/-- The entries of a kind and a name. -/
def ofKey (key : RuleKind × String) (pool : List Entry) : List Entry :=
  pool.filter fun e => e.key = key

theorem mem_ofKey {key : RuleKind × String} {pool : List Entry} {e : Entry} :
    e ∈ ofKey key pool ↔ e ∈ pool ∧ e.key = key := by
  rw [ofKey, List.mem_filter, decide_eq_true_iff]

@[simp] theorem ofKey_append (key : RuleKind × String) (front back : List Entry) :
    ofKey key (front ++ back) = ofKey key front ++ ofKey key back :=
  List.filter_append ..

theorem ofKey_cons_self (b : Entry) (pool : List Entry) :
    ofKey b.key (b :: pool) = b :: ofKey b.key pool :=
  List.filter_cons_of_pos (by simp)

theorem ofKey_cons_of_ne {key : RuleKind × String} {b : Entry} (h : b.key ≠ key)
    (pool : List Entry) : ofKey key (b :: pool) = ofKey key pool :=
  List.filter_cons_of_neg (by simpa using h)

/-! ## What a step looks at -/

theorem key_eq_of_isIdentical {a b : Entry} (h : a.rule.isIdentical b.rule = true) :
    b.key = a.key := by
  obtain ⟨hkind, hname, -⟩ := Rule.isIdentical_iff.mp h
  rw [Entry.key, Entry.key, hkind, hname]

theorem Entry.isCalled_iff_key {a e : Entry} :
    e.isCalled a.rule.name a.rule.kind = true ↔ e.pathError = none ∧ e.key = a.key := by
  rw [isCalled_iff, key, key, Prod.mk.injEq]

theorem mem_candidates_iff_key {pool : List Entry} {a e : Entry} :
    e ∈ candidates pool a ↔ e ∈ pool ∧ e.pathError = none ∧ e.key = a.key := by
  rw [candidates, List.mem_filter, Entry.isCalled_iff_key]

/-- The candidates of a rule have its key. -/
theorem candidates_ofKey (pool : List Entry) (a : Entry) :
    candidates (ofKey a.key pool) a = candidates pool a := by
  rw [candidates, candidates, ofKey, List.filter_filter]
  refine List.filter_congr fun e _ => ?_
  rw [Bool.eq_iff_iff, Bool.and_eq_true, decide_eq_true_iff]
  exact and_iff_left_of_imp fun h => (Entry.isCalled_iff_key.mp h).2

theorem ofKey_candidates (pool : List Entry) (a : Entry) :
    ofKey a.key (candidates pool a) = candidates (ofKey a.key pool) a :=
  List.filter_comm ..

theorem ofKey_bystanders (key : RuleKind × String) (pool : List Entry) (a : Entry) :
    ofKey key (bystanders pool a) = bystanders (ofKey key pool) a :=
  List.filter_comm ..

theorem ofKey_candidates_of_ne {key : RuleKind × String} {a : Entry} (h : key ≠ a.key)
    (pool : List Entry) : ofKey key (candidates pool a) = [] := by
  refine List.filter_eq_nil_iff.mpr fun e he => ?_
  obtain ⟨-, hcalled⟩ := List.mem_filter.mp he
  have := (Entry.isCalled_iff_key.mp hcalled).2
  simpa [this] using h.symm

theorem ofKey_bystanders_of_ne {key : RuleKind × String} {a : Entry} (h : key ≠ a.key)
    (pool : List Entry) : ofKey key (bystanders pool a) = ofKey key pool := by
  rw [ofKey_bystanders]
  refine List.filter_eq_self.mpr fun e he => ?_
  have hkey := (mem_ofKey.mp he).2
  rw [Bool.not_eq_true', ← Bool.not_eq_true, Entry.isCalled_iff_key, hkey]
  exact fun hcalled => h hcalled.2

theorem NoneIdentical.mono {pool pool' : List Entry} {a : Entry} (h : NoneIdentical pool a)
    (hsub : pool' ⊆ pool) : NoneIdentical pool' a :=
  fun hnamed b hb => h hnamed b (hsub hb)

namespace PairStep

variable {pool pool' : List Entry} {a : Entry} {p : Pairing}

/-- **A step leaves the entries of other keys as they are.** -/
theorem frame (h : PairStep pool a p pool') {key : RuleKind × String} (hkey : key ≠ a.key) :
    ofKey key pool' = ofKey key pool := by
  cases h with
  | identical front back b _ pool_eq same _ =>
    have hb : b.key ≠ key := by
      rw [key_eq_of_isIdentical same]
      exact hkey.symm
    rw [pool_eq, ofKey_append, ofKey_append, ofKey_cons_of_ne hb]
  | renewed => exact ofKey_bystanders_of_ne hkey pool
  | alone =>
    rw [ofKey_append, ofKey_candidates_of_ne hkey, List.append_nil, ofKey_bystanders_of_ne hkey]

/-- **A step is one of the entries of its key alone.** -/
theorem restrict (h : PairStep pool a p pool') :
    PairStep (ofKey a.key pool) a p (ofKey a.key pool') := by
  have hsub : ofKey a.key pool ⊆ pool := List.filter_subset_self pool
  cases h with
  | identical front back b named pool_eq same first =>
    have hb := key_eq_of_isIdentical same
    rw [ofKey_append]
    refine .identical _ _ b named ?_ same fun x hx => first x (mem_ofKey.mp hx).1
    rw [pool_eq, ofKey_append, ← hb, ofKey_cons_self]
  | renewed b unmatched only =>
    rw [ofKey_bystanders]
    exact .renewed b (unmatched.mono hsub) (by rw [candidates_ofKey, only])
  | alone unmatched notOne =>
    rw [ofKey_append, ofKey_bystanders, ofKey_candidates]
    exact .alone (unmatched.mono hsub) (by rwa [candidates_ofKey])

end PairStep

/-! ## What a step does -/

theorem takeIdentical?_append {rule : Rule} {front back : List Entry} {b : Entry}
    (hfront : ∀ x ∈ front, rule.isIdentical x.rule = false) (hb : rule.isIdentical b.rule = true) :
    takeIdentical? rule (front ++ b :: back) = some (b, front ++ back) := by
  induction front with
  | nil => simp [takeIdentical?, hb]
  | cons x rest ih =>
    obtain ⟨hx, hrest⟩ := List.forall_mem_cons.mp hfront
    simp [takeIdentical?, hx, ih hrest]

theorem pairOne_of_noneIdentical {pool : List Entry} {a : Entry} (h : NoneIdentical pool a) :
    pairOne pool a = pairByName pool a := by
  by_cases hname : a.rule.name = ""
  · simp [pairOne, hname]
  · simp [pairOne, hname, takeIdentical?_eq_none_iff.mpr (h hname)]

theorem splitByName_eq (pool : List Entry) (a : Entry) :
    splitByName a.rule.name a.rule.kind pool = (bystanders pool a, candidates pool a) :=
  rfl

/-- What a step can do is what it does. -/
theorem PairStep.eq_pairOne {pool pool' : List Entry} {a : Entry} {p : Pairing}
    (h : PairStep pool a p pool') : pairOne pool a = (p, pool') := by
  cases h with
  | identical front back b named pool_eq same first =>
    rw [pool_eq]
    simp [pairOne, named, takeIdentical?_append first same]
  | renewed b unmatched only =>
    rw [pairOne_of_noneIdentical unmatched, pairByName, splitByName_eq, only]
  | alone unmatched notOne =>
    rw [pairOne_of_noneIdentical unmatched, pairByName, splitByName_eq]
    rcases hc : candidates pool a with _ | ⟨b, _ | ⟨c, rest⟩⟩
    · rw [List.append_nil]
    · simp [hc] at notOne
    · rfl

/-- **The pairing of a rule depends only on the entries of its key**, and so do those that the step
leaves. -/
theorem pairOne_congr {pool pool₂ : List Entry} {a : Entry}
    (h : ofKey a.key pool = ofKey a.key pool₂) :
    (pairOne pool a).1 = (pairOne pool₂ a).1 ∧
      ofKey a.key (pairOne pool a).2 = ofKey a.key (pairOne pool₂ a).2 := by
  have hstep := (pairOne_step pool a).restrict.eq_pairOne
  have hstep₂ := (pairOne_step pool₂ a).restrict.eq_pairOne
  rw [h] at hstep
  exact Prod.mk.inj (hstep.symm.trans hstep₂)

/-! ## Pools that agree -/

/-- Two pools have the same entries of every key, in the same order. -/
def AgreeByKey (pool pool₂ : List Entry) : Prop :=
  ∀ key, ofKey key pool = ofKey key pool₂

namespace AgreeByKey

variable {pool pool₂ : List Entry}

theorem trans {pool₃ : List Entry} (h : AgreeByKey pool pool₂) (h' : AgreeByKey pool₂ pool₃) :
    AgreeByKey pool pool₃ :=
  fun key => (h key).trans (h' key)

/-- Pools that agree differ in their order only. -/
theorem perm (h : AgreeByKey pool pool₂) : pool.Perm pool₂ := by
  classical
  refine List.perm_iff_count.mpr fun e => ?_
  have hcount : ∀ l : List Entry, (ofKey e.key l).count e = l.count e := fun l =>
    List.count_filter (by simp)
  rw [← hcount pool, ← hcount pool₂, h e.key]

/-- **A step keeps pools in agreement**, and its pairing is the same. -/
theorem step (h : AgreeByKey pool pool₂) (a : Entry) :
    (pairOne pool a).1 = (pairOne pool₂ a).1 ∧
      AgreeByKey (pairOne pool a).2 (pairOne pool₂ a).2 := by
  obtain ⟨hpairing, hown⟩ := pairOne_congr (h a.key)
  refine ⟨hpairing, fun key => ?_⟩
  by_cases hkey : key = a.key
  · rw [hkey]
    exact hown
  · rw [(pairOne_step pool a).frame hkey, (pairOne_step pool₂ a).frame hkey]
    exact h key

end AgreeByKey

end RuleDelta

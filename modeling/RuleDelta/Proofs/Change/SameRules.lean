import Mathlib.Data.Multiset.MapFold
import RuleDelta.Change.Classification
import RuleDelta.Proofs.Change.Pairing
import RuleDelta.Proofs.Yaml.Same

/-!
# Rules that say the same on both sides

When the rules of the new side are those of the old side in another order, with any of them several
times, every rule finds an identical partner. A step may take another partner than the one that the
order has in mind, but the two are identical to each other, and so what is left of the pool is again
what is left of the new side in another order (`SameRules.take`). The run leaves nothing over
(`PairRun.of_sameRules`), and all entries are settled (`map_classify_of_sameRules`).
-/

namespace RuleDelta

/-- Two entries have rules that say the same under the same name, wherever they stand. -/
def Entry.SameRule (a b : Entry) : Prop :=
  a.rule.isIdentical b.rule = true

/-- The rules of the new side are those of the old side in some order. -/
def SameRules (before after : List Entry) : Prop :=
  Multiset.Rel Entry.SameRule after before

/-- Rules that are identical to each other are identical to the same rules. -/
theorem Rule.isIdentical_congr {a b : Rule} (ha : a.body.DistinctKeys)
    (h : a.isIdentical b = true) (c : Rule) : a.isIdentical c = b.isIdentical c := by
  obtain ⟨hkind, hname, hbody⟩ := isIdentical_iff.mp h
  rw [isIdentical, isIdentical, hkind, hname, ha.regular.congr _ _ hbody]

/-! ## One step -/

namespace SameRules

variable {before after pool : List Entry} {a : Entry}

theorem of_forall₂ (partners : List Entry) (h : List.Forall₂ Entry.SameRule after partners)
    (hperm : partners.Perm before) : SameRules before after := by
  rw [SameRules, ← Multiset.coe_eq_coe.mpr hperm]
  clear hperm
  induction h with
  | nil => exact .zero
  | cons hsame _ ih => exact ih.cons hsame

/-- A rule of the new side has a partner, and the other rules are the same without the two. -/
theorem exists_partner (h : SameRules pool (a :: after)) :
    ∃ (b : Entry) (rest : Multiset Entry), a.SameRule b ∧
      Multiset.Rel Entry.SameRule after rest ∧ (pool : Multiset Entry) = b ::ₘ rest := by
  rw [SameRules, ← Multiset.cons_coe] at h
  exact Multiset.rel_cons_left.mp h

/-- Every rule of the new side has an identical one on the old side. -/
theorem exists_identical (h : SameRules pool (a :: after)) : ∃ b ∈ pool, a.SameRule b := by
  obtain ⟨b, rest, hsame, -, hpool⟩ := h.exists_partner
  refine ⟨b, ?_, hsame⟩
  rw [← Multiset.mem_coe, hpool]
  exact Multiset.mem_cons_self b rest

/-- **The invariant of a step**: without an identical rule each, both sides still have the same
rules. -/
theorem take {front back : List Entry} {b : Entry}
    (hdistinct : ∀ x ∈ a :: after, x.rule.body.DistinctKeys)
    (h : SameRules (front ++ b :: back) (a :: after)) (hsame : a.SameRule b) :
    SameRules (front ++ back) after := by
  have hmiddle : ((front ++ b :: back : List Entry) : Multiset Entry) =
      b ::ₘ ((front ++ back : List Entry) : Multiset Entry) :=
    Multiset.coe_eq_coe.mpr List.perm_middle
  obtain ⟨partner, rest, hpartner, hrest, hpool⟩ := h.exists_partner
  rw [hmiddle, Multiset.cons_eq_cons] at hpool
  rcases hpool with ⟨-, heq⟩ | ⟨-, others, heq, hrestEq⟩
  · rw [SameRules, heq]
    exact hrest
  · -- the rule that had `b` as its partner gets that of `a`
    rw [hrestEq] at hrest
    obtain ⟨a', after', hsame', hothers, hafter⟩ := Multiset.rel_cons_right.mp hrest
    have hmem : a' ∈ after := by
      rw [← Multiset.mem_coe, hafter]
      exact Multiset.mem_cons_self a' after'
    have ha := hdistinct a List.mem_cons_self
    have ha' := hdistinct a' (List.mem_cons_of_mem _ hmem)
    have hswap : a'.SameRule partner := by
      rw [Entry.SameRule, Rule.isIdentical_congr ha' hsame', ← Rule.isIdentical_congr ha hsame]
      exact hpartner
    rw [SameRules, heq, hafter]
    exact hothers.cons hswap

end SameRules

/-! ## All steps -/

/-- **Rules that say the same are all paired with identical ones**, and nothing is left over. -/
theorem PairRun.of_sameRules {pool after left : List Entry} {paired : List Pairing}
    (hrun : PairRun pool after paired left) (hnamed : ∀ a ∈ after, a.rule.name ≠ "")
    (hdistinct : ∀ a ∈ after, a.rule.body.DistinctKeys) (h : SameRules pool after) :
    left = [] ∧ List.Forall₂ (fun p a => ∃ b ∈ pool, p = .identical b a) paired after := by
  induction hrun with
  | nil pool =>
    have hpool : (pool : Multiset Entry) = 0 := Multiset.rel_zero_left.mp h
    exact ⟨(Multiset.coe_eq_zero pool).mp hpool, .nil⟩
  | @cons pool pool' left after a p paired step _ ih =>
    obtain ⟨hname, hnames⟩ := List.forall_mem_cons.mp hnamed
    have hafter := (List.forall_mem_cons.mp hdistinct).2
    obtain ⟨b', hb', hsame'⟩ := h.exists_identical
    have hmatched : ¬NoneIdentical pool a := fun hnone => by
      rw [Entry.SameRule, hnone hname b' hb'] at hsame'
      cases hsame'
    cases step with
    | identical front back b named pool_eq same first =>
      subst pool_eq
      obtain ⟨hleft, hpaired⟩ := ih hnames hafter (h.take hdistinct same)
      refine ⟨hleft, .cons ⟨b, by simp, rfl⟩ (hpaired.imp fun p a => ?_)⟩
      rintro ⟨x, hx, rfl⟩
      have hsub : (front ++ back).Sublist (front ++ b :: back) :=
        (List.sublist_cons_self b back).append_left front
      exact ⟨x, hsub.subset hx, rfl⟩
    | renewed b unmatched only => exact absurd unmatched hmatched
    | alone unmatched notOne => exact absurd unmatched hmatched

/-! ## Entries -/

/-- The entry of a rule that says the same on both sides: it is excluded where both sides are read
from one path, and otherwise it has moved to all lines of the new content. -/
def Entry.settled (change : FileChange) (a : Entry) : Entry :=
  if change.before.effective = change.after.effective then
    { a with state := .excluded, modifiedLines := [] }
  else { a with state := .moved, modifiedLines := LineSet.linesOf change.bodyAfter }

theorem classify_identical {change : FileChange} {a b : Entry}
    (ha : a.sourcePath = change.after.effective) (hb : b.sourcePath = change.before.effective) :
    classify change (.identical b a) = some (a.settled change) := by
  by_cases hpath : change.before.effective = change.after.effective
  · simp [classify, Pairing.identical, Pairing.keptEntry, Entry.settled, ha, hb, hpath]
  · have hpath' : change.after.effective ≠ change.before.effective := fun h => hpath h.symm
    simp [classify, Pairing.identical, Pairing.keptEntry, Entry.settled, ha, hb, hpath, hpath']

/-- **Rules that say the same are all settled.** -/
theorem map_classify_of_sameRules {change : FileChange} {before after : List Entry}
    (hbefore : ∀ b ∈ before, b.sourcePath = change.before.effective)
    (hafter : ∀ a ∈ after, a.sourcePath = change.after.effective)
    (hnamed : ∀ a ∈ after, a.rule.name ≠ "") (hdistinct : ∀ a ∈ after, a.rule.body.DistinctKeys)
    (h : SameRules before after) :
    (pairEntries before after).map (classify change) =
      (after.map (Entry.settled change)).map some := by
  obtain ⟨paired, left, hrun, heq⟩ := exists_pairRun before after
  obtain ⟨rfl, hpaired⟩ := hrun.of_sameRules hnamed hdistinct h
  rw [heq, List.map_nil, List.append_nil]
  clear hrun heq h hnamed hdistinct
  induction hpaired with
  | nil => rfl
  | cons hp _ ih =>
    obtain ⟨b, hb, rfl⟩ := hp
    obtain ⟨ha, hafter⟩ := List.forall_mem_cons.mp hafter
    rw [List.map_cons, List.map_cons, List.map_cons, classify_identical ha (hbefore b hb),
      ih hafter]

end RuleDelta

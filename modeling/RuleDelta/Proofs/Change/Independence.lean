import Mathlib.Data.List.FinRange
import RuleDelta.Proofs.Change.Key
import RuleDelta.Proofs.Change.Priority

/-!
# Rules of different names do not disturb each other

Where no two rules of the new side have the same kind and name, each finds its partner as if it were
alone: the steps of the others touch no rule of its kind and name. So their order does not count.

* `pairingFor` is the pairing of a rule of the new side with all of the old side to choose from;
* `pairEntries_of_distinctKeys` says that these are the pairings, and what becomes of them when the
  rules of the new side change places.
-/

namespace RuleDelta

/-! ## A rule on its own -/

/-- The first rule that says the same as a rule with a name. -/
def identicalTo? (before : List Entry) (a : Entry) : Option Entry :=
  if a.rule.name = "" then none else before.find? fun b => a.rule.isIdentical b.rule

/-- The pairing of a rule with the first one that says the same or, without such, with the only
one of its kind and name whose path is known. -/
def pairingFor (before : List Entry) (a : Entry) : Pairing :=
  match identicalTo? before a with
  | some b => .identical b a
  | none =>
    match candidates before a with
    | [b] => .renewed b a
    | _ => .added a

theorem identicalTo?_of_noneIdentical {before : List Entry} {a : Entry}
    (h : NoneIdentical before a) : identicalTo? before a = none := by
  unfold identicalTo?
  split
  · rfl
  · rename_i hnamed
    exact List.find?_eq_none.mpr fun b hb => by simp [h hnamed b hb]

theorem PairStep.eq_pairingFor {pool pool' : List Entry} {a : Entry} {p : Pairing}
    (h : PairStep pool a p pool') : p = pairingFor pool a := by
  unfold pairingFor
  cases h with
  | identical front back b named pool_eq same first =>
    have hfind : identicalTo? pool a = some b := by
      rw [identicalTo?, if_neg named, List.find?_eq_some_iff_append]
      exact ⟨same, front, back, pool_eq, fun x hx => by simp [first x hx]⟩
    rw [hfind]
  | renewed b unmatched only => rw [identicalTo?_of_noneIdentical unmatched, only]
  | alone unmatched notOne =>
    rw [identicalTo?_of_noneIdentical unmatched]
    rcases hc : candidates pool a with _ | ⟨b, _ | ⟨c, rest⟩⟩
    · rfl
    · simp [hc] at notOne
    · rfl

/-! ## All rules -/

/-- The rules of the new side are paired as if alone, from any pool that has all rules of their
keys. -/
theorem take_pairEntries {before pool after : List Entry} (hkeys : (after.map Entry.key).Nodup)
    (hpool : ∀ a ∈ after, ofKey a.key pool = ofKey a.key before) :
    (pairEntries pool after).take after.length = after.map (pairingFor before) := by
  induction after generalizing pool with
  | nil => rfl
  | cons a rest ih =>
    obtain ⟨hfresh, hrest⟩ := List.nodup_cons.mp hkeys
    obtain ⟨hown, hothers⟩ := List.forall_mem_cons.mp hpool
    have hfirst : (pairOne pool a).1 = pairingFor before a :=
      (pairOne_congr hown).1.trans (pairOne_step before a).eq_pairingFor
    -- the step of `a` touches no rule of a later key
    have hleft : ∀ c ∈ rest, ofKey c.key (pairOne pool a).2 = ofKey c.key before := by
      intro c hc
      have hne : c.key ≠ a.key := fun heq => hfresh (heq ▸ List.mem_map_of_mem hc)
      rw [(pairOne_step pool a).frame hne, hothers c hc]
    rw [pairEntries_cons, List.length_cons, List.take_succ_cons, List.map_cons, hfirst,
      ih hrest hleft]

/-- Behind the pairings of the new side stand the rules of the old side that they leave. -/
theorem exists_left (before after : List Entry) :
    ∃ left : List Entry, (pairEntries before after).drop after.length = left.map .removed ∧
      (((pairEntries before after).take after.length).filterMap Pairing.before? ++
        left).Perm before := by
  obtain ⟨paired, left, hrun, heq⟩ := exists_pairRun before after
  refine ⟨left, ?_, ?_⟩
  · rw [heq, List.drop_left' hrun.length_eq]
  · rw [heq, List.take_left' hrun.length_eq]
    exact hrun.perm

/-- Pairings of the new side that are the same up to their order leave the same rules. -/
theorem drop_perm_of_take_perm {before after after' : List Entry}
    (h : ((pairEntries before after').take after'.length).Perm
      ((pairEntries before after).take after.length)) :
    ((pairEntries before after').drop after'.length).Perm
      ((pairEntries before after).drop after.length) := by
  obtain ⟨left, hdrop, hperm⟩ := exists_left before after
  obtain ⟨left', hdrop', hperm'⟩ := exists_left before after'
  rw [hdrop, hdrop']
  have hsame := hperm'.trans (hperm.symm.trans ((h.filterMap Pairing.before?).symm.append_right _))
  exact ((List.perm_append_left_iff _).mp hsame).map _

/-- Rules in another order. -/
def reordered (after : List Entry) (σ : Equiv.Perm (Fin after.length)) : List Entry :=
  List.ofFn fun i => after[σ i]

theorem length_reordered (after : List Entry) (σ : Equiv.Perm (Fin after.length)) :
    (reordered after σ).length = after.length :=
  List.length_ofFn

theorem reordered_perm (after : List Entry) (σ : Equiv.Perm (Fin after.length)) :
    (reordered after σ).Perm after := by
  have hself : List.ofFn (fun i : Fin after.length => after[i]) = after := List.ofFn_getElem
  have hperm := σ.ofFn_comp_perm fun i : Fin after.length => after[i]
  rw [hself] at hperm
  exact hperm

/-- **Rules of different kinds or names are paired independently of each other.** Each is paired as
if it were alone, whatever the rules of the old side. When the rules of the new side change places,
their pairings do, and the same rules of the old side are left. -/
theorem pairEntries_of_distinctKeys {before after : List Entry}
    (hkeys : (after.map Entry.key).Nodup) :
    (pairEntries before after).take after.length = after.map (pairingFor before) ∧
      ∀ σ : Equiv.Perm (Fin after.length),
        (∀ i : Fin after.length, (pairEntries before (reordered after σ))[i.val]? =
          (pairEntries before after)[(σ i).val]?) ∧
        ((pairEntries before (reordered after σ)).drop after.length).Perm
          ((pairEntries before after).drop after.length) := by
  have hpairings : ∀ {xs : List Entry}, xs.Perm after →
      (pairEntries before xs).take after.length = xs.map (pairingFor before) := by
    intro xs hperm
    rw [← hperm.length_eq]
    exact take_pairEntries ((hperm.map Entry.key).nodup_iff.mpr hkeys) fun _ _ => rfl
  refine ⟨hpairings (.refl after), fun σ => ⟨fun i => ?_, ?_⟩⟩
  · have hat : ∀ {xs : List Entry}, xs.Perm after → ∀ k : Fin after.length,
        (pairEntries before xs)[k.val]? = xs[k.val]?.map (pairingFor before) := by
      intro xs hperm k
      rw [← List.getElem?_take_of_lt k.isLt, hpairings hperm, List.getElem?_map]
    rw [hat (reordered_perm after σ), hat (.refl after)]
    simp [reordered]
  · have htake : ((pairEntries before (reordered after σ)).take (reordered after σ).length).Perm
        ((pairEntries before after).take after.length) := by
      rw [length_reordered, hpairings (reordered_perm after σ), hpairings (.refl after)]
      exact (reordered_perm after σ).map _
    have hdrop := drop_perm_of_take_perm htake
    rwa [length_reordered] at hdrop

/-- Old rules. One with an unknown path says the same as a later one, another has no name, and two
have one name. -/
def mixedBefore : List Entry :=
  [{ alertSaying "A" "x" 1 with pathError := some "gone" }, alertSaying "A" "x" 3,
    alertSaying "A" "w" 5, alertSaying "B" "p" 7, alertSaying "C" "q" 9, alertSaying "C" "r" 11,
    alertSaying "" "n" 13]

/-- New rules of different names. -/
def mixedAfter : List Entry :=
  [alertSaying "C" "s" 1, alertSaying "A" "x" 3, alertSaying "B" "p" 5, alertSaying "" "n" 7]

theorem pairEntries_mixed :
    (mixedAfter.map Entry.key).Nodup ∧
      (pairEntries mixedBefore mixedAfter).take mixedAfter.length =
        [.added (alertSaying "C" "s" 1),
          .identical { alertSaying "A" "x" 1 with pathError := some "gone" }
            (alertSaying "A" "x" 3),
          .identical (alertSaying "B" "p" 7) (alertSaying "B" "p" 5),
          .renewed (alertSaying "" "n" 13) (alertSaying "" "n" 7)] ∧
      ∀ σ : Equiv.Perm (Fin mixedAfter.length),
        (∀ i : Fin mixedAfter.length, (pairEntries mixedBefore (reordered mixedAfter σ))[i.val]? =
          (pairEntries mixedBefore mixedAfter)[(σ i).val]?) ∧
        ((pairEntries mixedBefore (reordered mixedAfter σ)).drop mixedAfter.length).Perm
          ((pairEntries mixedBefore mixedAfter).drop mixedAfter.length) := by
  have hkeys : (mixedAfter.map Entry.key).Nodup := by decide
  obtain ⟨hpairings, hreordered⟩ :=
    @pairEntries_of_distinctKeys mixedBefore mixedAfter hkeys
  exact ⟨hkeys, hpairings.trans rfl, hreordered⟩

end RuleDelta

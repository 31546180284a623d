import RuleDelta.Proofs.Change.Key
import RuleDelta.Proofs.Change.Priority

/-!
# Leaving candidates in their place

Several candidates for a rule of the new side go to the end of the pool. That is a way to write the
pool down and nothing more: as long as all paths of the old side are known, the candidates are all
rules of their kind and name, so the move keeps the order of the rules of every kind and name, and
no step looks at any other order.

* `pairEntriesInPlace` is the pairing that leaves candidates where they are;
* `agreeByKey_pairOneInPlace` compares the steps of the two, and `runs_inPlace` the runs;
* `pairEntries_inPlace` says that both pair the same rules and leave the same.
-/

namespace RuleDelta

/-! ## Pairing in place -/

/-- The pairing of a rule by its name and kind, and the pool behind it. Several candidates stay in
their place. -/
def pairByNameInPlace (pool : List Entry) (after : Entry) : Pairing × List Entry :=
  match splitByName after.rule.name after.rule.kind pool with
  | (rest, []) => (.added after, rest)
  | (rest, [before]) => (.renewed before after, rest)
  | _ => (.added after, pool)

/-- The pairing of a rule of the new side, and the pool behind it, with several candidates in their
place. -/
def pairOneInPlace (pool : List Entry) (after : Entry) : Pairing × List Entry :=
  match if after.rule.name.isEmpty then none else takeIdentical? after.rule pool with
  | some (before, rest) => (.identical before after, rest)
  | none => pairByNameInPlace pool after

/-- The pairings of the rules of both sides, with several candidates in their place. -/
def pairEntriesInPlace (before : List Entry) : List Entry → List Pairing
  | [] => before.map .removed
  | a :: rest =>
    let (pairing, pool) := pairOneInPlace before a
    pairing :: pairEntriesInPlace pool rest

theorem pairEntriesInPlace_cons (before : List Entry) (a : Entry) (rest : List Entry) :
    pairEntriesInPlace before (a :: rest) =
      (pairOneInPlace before a).1 :: pairEntriesInPlace (pairOneInPlace before a).2 rest := rfl

/-! ## One step -/

/-- What is left beside an identical rule stands as it stood. -/
theorem sublist_of_takeIdentical? {rule : Rule} {pool others : List Entry} {b : Entry}
    (h : takeIdentical? rule pool = some (b, others)) : others.Sublist pool := by
  obtain ⟨front, back, rfl, rfl, -, -⟩ := takeIdentical?_eq_some h
  exact (List.sublist_cons_self b back).append_left front

/-- What a step in place does, compared with the step that moves candidates. -/
inductive InPlace (pool : List Entry) (a : Entry) (step inPlace : Pairing × List Entry) : Prop
  /-- Both do the same, and what they leave stands as it stood. -/
  | same (eq : inPlace = step) (left : step.2.Sublist pool)
  /-- The rule has no partner; its candidates are moved to the end by the one and not by the
  other. -/
  | kept (moves : step = (.added a, bystanders pool a ++ candidates pool a))
      (keeps : inPlace = (.added a, pool))

theorem inPlace_pairByName (pool : List Entry) (a : Entry) :
    InPlace pool a (pairByName pool a) (pairByNameInPlace pool a) := by
  rw [pairByName, pairByNameInPlace, splitByName_eq]
  rcases hc : candidates pool a with _ | ⟨b, _ | ⟨c, rest⟩⟩
  · exact .same rfl List.filter_sublist
  · exact .same rfl List.filter_sublist
  · exact .kept (by rw [hc]) rfl

theorem inPlace_pairOne (pool : List Entry) (a : Entry) :
    InPlace pool a (pairOne pool a) (pairOneInPlace pool a) := by
  rw [pairOne, pairOneInPlace]
  rcases htake : if a.rule.name.isEmpty then none else takeIdentical? a.rule pool with
    _ | ⟨before, others⟩
  · exact inPlace_pairByName pool a
  · refine .same rfl ?_
    split at htake
    · cases htake
    · exact sublist_of_takeIdentical? htake

/-- Where all paths are known, the candidates of a rule are all entries of its key. -/
theorem candidates_eq_ofKey {pool : List Entry} (hpaths : ∀ b ∈ pool, b.pathError = none)
    (a : Entry) : candidates pool a = ofKey a.key pool := by
  refine List.filter_congr fun e he => ?_
  rw [Bool.eq_iff_iff, Entry.isCalled_iff_key, decide_eq_true_iff]
  exact and_iff_right (hpaths e he)

/-- Moving the candidates to the end keeps the order of the entries of every key. -/
theorem agreeByKey_append_candidates {pool : List Entry}
    (hpaths : ∀ b ∈ pool, b.pathError = none) (a : Entry) :
    AgreeByKey (bystanders pool a ++ candidates pool a) pool := by
  intro key
  rw [ofKey_append]
  by_cases hkey : key = a.key
  · rw [hkey]
    have hnone : ofKey a.key (bystanders pool a) = [] := by
      refine List.filter_eq_nil_iff.mpr fun e he => ?_
      obtain ⟨hmem, hother⟩ := List.mem_filter.mp he
      rw [Bool.not_eq_true', ← Bool.not_eq_true, Entry.isCalled_iff_key] at hother
      exact fun h => hother ⟨hpaths e hmem, of_decide_eq_true h⟩
    rw [hnone, List.nil_append, ofKey_candidates, candidates_ofKey, candidates_eq_ofKey hpaths]
  · rw [ofKey_bystanders_of_ne hkey, ofKey_candidates_of_ne hkey, List.append_nil]

/-- **A step in place makes the same pairing** as the other one from a pool that agrees, and the
pools behind them agree. -/
theorem agreeByKey_pairOneInPlace {pool pool₂ : List Entry} (h : AgreeByKey pool pool₂)
    (hpaths : ∀ b ∈ pool₂, b.pathError = none) (a : Entry) :
    (pairOne pool a).1 = (pairOneInPlace pool₂ a).1 ∧
      AgreeByKey (pairOne pool a).2 (pairOneInPlace pool₂ a).2 := by
  obtain ⟨hpairing, hagree⟩ := h.step a
  cases inPlace_pairOne pool₂ a with
  | same eq => exact eq ▸ ⟨hpairing, hagree⟩
  | kept moves keeps =>
    rw [moves] at hpairing hagree
    rw [keeps]
    exact ⟨hpairing, hagree.trans (agreeByKey_append_candidates hpaths a)⟩

/-- What a step in place leaves stands as it stood. -/
theorem sublist_pairOneInPlace (pool : List Entry) (a : Entry) :
    (pairOneInPlace pool a).2.Sublist pool := by
  cases inPlace_pairOne pool a with
  | same eq left => rwa [eq]
  | kept _ keeps => rw [keeps]

/-! ## All steps -/

/-- **Runs from pools that agree make the same pairings** and leave pools that agree. -/
theorem runs_inPlace {pool pool₂ : List Entry} (h : AgreeByKey pool pool₂)
    (hpaths : ∀ b ∈ pool₂, b.pathError = none) (after : List Entry) :
    ∃ paired left left₂, pairEntries pool after = paired ++ left.map Pairing.removed ∧
      pairEntriesInPlace pool₂ after = paired ++ left₂.map Pairing.removed ∧
      paired.length = after.length ∧ AgreeByKey left left₂ ∧ left₂.Sublist pool₂ := by
  induction after generalizing pool pool₂ with
  | nil => exact ⟨[], pool, pool₂, rfl, rfl, rfl, h, .refl pool₂⟩
  | cons a rest ih =>
    obtain ⟨hpairing, hagree⟩ := agreeByKey_pairOneInPlace h hpaths a
    have hsub := sublist_pairOneInPlace pool₂ a
    obtain ⟨paired, left, left₂, heq, heq₂, hlength, hleft, hsublist⟩ :=
      ih hagree fun b hb => hpaths b (hsub.subset hb)
    refine ⟨(pairOne pool a).1 :: paired, left, left₂, ?_, ?_, ?_, hleft, hsublist.trans hsub⟩
    · rw [pairEntries_cons, heq, List.cons_append]
    · rw [pairEntriesInPlace_cons, heq₂, hpairing, List.cons_append]
    · rw [List.length_cons, List.length_cons, hlength]

/-- **Moving candidates to the end of the pool changes no pairing.** Where all paths of the old side
are known, the rules of the new side have the same pairings as with the candidates left in their
place, and the same rules of the old side are left; those of one kind and name stand in their
order, as they do with the candidates left in their place. -/
theorem pairEntries_inPlace {before : List Entry} (hpaths : ∀ b ∈ before, b.pathError = none)
    (after : List Entry) :
    (pairEntries before after).take after.length =
        (pairEntriesInPlace before after).take after.length ∧
      ∃ left left₂ : List Entry,
        (pairEntries before after).drop after.length = left.map .removed ∧
        (pairEntriesInPlace before after).drop after.length = left₂.map .removed ∧
        left.Perm left₂ ∧
        ∀ key, ofKey key left = ofKey key left₂ ∧ (ofKey key left).Sublist (ofKey key before) := by
  obtain ⟨paired, left, left₂, heq, heq₂, hlength, hagree, hsublist⟩ :=
    runs_inPlace (fun _ => rfl) hpaths after
  refine ⟨?_, left, left₂, ?_, ?_, hagree.perm, fun key => ⟨hagree key, ?_⟩⟩
  · rw [heq, heq₂, List.take_left' hlength, List.take_left' hlength]
  · rw [heq, List.drop_left' hlength]
  · rw [heq₂, List.drop_left' hlength]
  · rw [hagree key]
    exact hsublist.filter _

/-- Old rules, two of them of one name. -/
def movedBefore : List Entry :=
  [alertSaying "A" "x" 1, alertSaying "A" "y" 3, alertSaying "B" "z" 5]

/-- New rules of that name. The first has two candidates and takes neither. -/
def movedAfter : List Entry :=
  [alertSaying "A" "w" 1, alertSaying "A" "x" 3]

/-- The candidates go behind the rule of the other name, and the runs still agree. -/
theorem pairEntries_inPlace_moved :
    (∀ b ∈ movedBefore, b.pathError = none) ∧
      (pairOne movedBefore (alertSaying "A" "w" 1)).2 =
        [alertSaying "B" "z" 5, alertSaying "A" "x" 1, alertSaying "A" "y" 3] ∧
      (pairEntries movedBefore movedAfter).take movedAfter.length =
        (pairEntriesInPlace movedBefore movedAfter).take movedAfter.length ∧
      ∃ left left₂ : List Entry,
        (pairEntries movedBefore movedAfter).drop movedAfter.length = left.map .removed ∧
        (pairEntriesInPlace movedBefore movedAfter).drop movedAfter.length =
          left₂.map .removed ∧
        left.Perm left₂ ∧
        ∀ key, ofKey key left = ofKey key left₂ ∧
          (ofKey key left).Sublist (ofKey key movedBefore) := by
  have hpaths : ∀ b ∈ movedBefore, b.pathError = none := by
    simp [movedBefore, alertSaying, Entry.ofRule]
  exact ⟨hpaths, rfl, pairEntries_inPlace hpaths movedAfter⟩

end RuleDelta

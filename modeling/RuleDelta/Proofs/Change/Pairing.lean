import RuleDelta.Change.Pairing

/-!
# What the pairings of two sides keep

The rules of the new side take their partners from a pool of rules of the old side, one step for
each. `PairStep` says once what a step can do: take the first identical rule of the pool, take the
only rule of the same name and kind, or take none. From it:

* `Pairing.Sound` holds of the pairing of every step: its rules belong together;
* `PairStep.perm` is the balance of a step: the pool loses the partner and nothing else;
* `PairRun` chains the steps, and `PairRun.perm` is its balance;
* `pairEntries_accounts` is the account of both sides: no rule is lost, comes twice or is made up.
-/

namespace RuleDelta

/-! ## Partners in the pool -/

theorem takeIdentical?_eq_none_iff {rule : Rule} {pool : List Entry} :
    takeIdentical? rule pool = none ↔ ∀ b ∈ pool, rule.isIdentical b.rule = false := by
  induction pool with
  | nil => simp [takeIdentical?]
  | cons b rest ih =>
    by_cases h : rule.isIdentical b.rule = true
    · simp [takeIdentical?, h]
    · simp [takeIdentical?, h, ih]

/-- The rule that is taken is the first identical one, and the others keep their order. -/
theorem takeIdentical?_eq_some {rule : Rule} {pool others : List Entry} {b : Entry}
    (h : takeIdentical? rule pool = some (b, others)) :
    ∃ front back, pool = front ++ b :: back ∧ others = front ++ back ∧
      rule.isIdentical b.rule = true ∧ ∀ x ∈ front, rule.isIdentical x.rule = false := by
  induction pool generalizing others with
  | nil => simp [takeIdentical?] at h
  | cons c rest ih =>
    by_cases hc : rule.isIdentical c.rule = true
    · simp only [takeIdentical?, hc, if_true, Option.some.injEq, Prod.mk.injEq] at h
      obtain ⟨rfl, rfl⟩ := h
      exact ⟨[], rest, rfl, rfl, hc, by simp⟩
    · simp only [takeIdentical?, hc, Bool.false_eq_true, if_false, Option.map_eq_some_iff] at h
      obtain ⟨⟨b', others'⟩, hrest, heq⟩ := h
      simp only [Prod.mk.injEq] at heq
      obtain ⟨rfl, rfl⟩ := heq
      obtain ⟨front, back, rfl, rfl, hb, hfront⟩ := ih hrest
      refine ⟨c :: front, back, rfl, rfl, hb, ?_⟩
      intro x hx
      rcases List.mem_cons.mp hx with rfl | hx
      · simpa using hc
      · exact hfront x hx

theorem Rule.isIdentical_iff {a b : Rule} :
    a.isIdentical b = true ↔ a.kind = b.kind ∧ a.name = b.name ∧ a.body.same b.body = true := by
  simp [Rule.isIdentical, and_assoc]

theorem Entry.isCalled_iff {name : String} {kind : RuleKind} {e : Entry} :
    e.isCalled name kind = true ↔ e.pathError = none ∧ e.rule.kind = kind ∧ e.rule.name = name := by
  simp [Entry.isCalled, and_assoc]

/-- The entries of the pool that a rule of the new side can find by its name and kind. -/
def candidates (pool : List Entry) (a : Entry) : List Entry :=
  pool.filter fun e => e.isCalled a.rule.name a.rule.kind

/-- The other entries of the pool. -/
def bystanders (pool : List Entry) (a : Entry) : List Entry :=
  pool.filter fun e => !e.isCalled a.rule.name a.rule.kind

theorem mem_candidates {pool : List Entry} {a e : Entry} :
    e ∈ candidates pool a ↔
      e ∈ pool ∧ e.pathError = none ∧ e.rule.kind = a.rule.kind ∧ e.rule.name = a.rule.name := by
  rw [candidates, List.mem_filter, Entry.isCalled_iff]

theorem perm_bystanders_candidates (pool : List Entry) (a : Entry) :
    (bystanders pool a ++ candidates pool a).Perm pool := by
  refine List.perm_append_comm.trans ?_
  exact List.filter_append_perm _ pool

/-! ## One step -/

/-- No rule of the pool is identical to a named rule. A rule without a name has no identical
rules. -/
def NoneIdentical (pool : List Entry) (a : Entry) : Prop :=
  a.rule.name ≠ "" → ∀ b ∈ pool, a.rule.isIdentical b.rule = false

/-- What the step of a rule of the new side can do: the pairing, and the pool behind it. -/
inductive PairStep (pool : List Entry) (a : Entry) : Pairing → List Entry → Prop
  /-- The first identical rule is taken. -/
  | identical (front back : List Entry) (b : Entry) (named : a.rule.name ≠ "")
      (pool_eq : pool = front ++ b :: back) (same : a.rule.isIdentical b.rule = true)
      (first : ∀ x ∈ front, a.rule.isIdentical x.rule = false) :
      PairStep pool a (.identical b a) (front ++ back)
  /-- The only rule of the name and kind is taken. -/
  | renewed (b : Entry) (unmatched : NoneIdentical pool a) (only : candidates pool a = [b]) :
      PairStep pool a (.renewed b a) (bystanders pool a)
  /-- No rule is taken, and several candidates go to the end of the pool. -/
  | alone (unmatched : NoneIdentical pool a) (notOne : (candidates pool a).length ≠ 1) :
      PairStep pool a (.added a) (bystanders pool a ++ candidates pool a)

theorem pairByName_step {pool : List Entry} {a : Entry} (h : NoneIdentical pool a) :
    PairStep pool a (pairByName pool a).1 (pairByName pool a).2 := by
  have hsplit : splitByName a.rule.name a.rule.kind pool = (bystanders pool a, candidates pool a) :=
    rfl
  rw [pairByName, hsplit]
  match hc : candidates pool a with
  | [] =>
    have := PairStep.alone h (by simp [hc])
    rwa [hc, List.append_nil] at this
  | [b] => exact .renewed b h hc
  | b :: c :: rest =>
    have := PairStep.alone h (by simp [hc])
    rwa [hc] at this

/-- **A step does what `PairStep` says.** -/
theorem pairOne_step (pool : List Entry) (a : Entry) :
    PairStep pool a (pairOne pool a).1 (pairOne pool a).2 := by
  by_cases hname : a.rule.name = ""
  · have : pairOne pool a = pairByName pool a := by simp [pairOne, hname]
    rw [this]
    exact pairByName_step fun h => absurd hname h
  · cases htake : takeIdentical? a.rule pool with
    | none =>
      have : pairOne pool a = pairByName pool a := by simp [pairOne, hname, htake]
      rw [this]
      exact pairByName_step fun _ => takeIdentical?_eq_none_iff.mp htake
    | some found =>
      obtain ⟨b, others⟩ := found
      obtain ⟨front, back, hpool, rfl, hsame, hfirst⟩ := takeIdentical?_eq_some htake
      have : pairOne pool a = (.identical b a, front ++ back) := by simp [pairOne, hname, htake]
      rw [this]
      exact .identical front back b hname hpool hsame hfirst

/-- The rules of a pairing belong together. -/
structure Pairing.Sound (p : Pairing) : Prop where
  /-- There is a rule on one side at least. -/
  nonempty : p.before?.isSome ∨ p.after?.isSome
  /-- Rules on both sides have the same kind and name. -/
  joined : ∀ b a, p.before? = some b → p.after? = some a →
    a.rule.kind = b.rule.kind ∧ a.rule.name = b.rule.name
  /-- An identical pair has two rules that say the same. -/
  identical : p.isIdentical = true →
    ∃ b a, p.before? = some b ∧ p.after? = some a ∧ a.rule.isIdentical b.rule = true
  /-- A moved pair is an identical one of different files. -/
  moved : p.wasMoved = true → p.isIdentical = true ∧
    ∃ b a, p.before? = some b ∧ p.after? = some a ∧ a.sourcePath ≠ b.sourcePath

theorem Pairing.sound_added (a : Entry) : (Pairing.added a).Sound where
  nonempty := .inr rfl
  joined _ _ hb _ := nomatch hb
  identical h := nomatch h
  moved h := nomatch h

theorem Pairing.sound_removed (b : Entry) : (Pairing.removed b).Sound where
  nonempty := .inl rfl
  joined _ _ _ ha := nomatch ha
  identical h := nomatch h
  moved h := nomatch h

namespace PairStep

variable {pool pool' : List Entry} {a : Entry} {p : Pairing}

theorem after?_eq (h : PairStep pool a p pool') : p.after? = some a := by
  cases h <;> rfl

theorem sound (h : PairStep pool a p pool') : p.Sound := by
  cases h with
  | identical front back b _ _ same _ =>
    obtain ⟨hkind, hname, -⟩ := Rule.isIdentical_iff.mp same
    refine ⟨.inl rfl, ?_, fun _ => ⟨b, a, rfl, rfl, same⟩, ?_⟩
    · rintro _ _ ⟨⟩ ⟨⟩
      exact ⟨hkind, hname⟩
    · intro hmoved
      exact ⟨rfl, b, a, rfl, rfl, by simpa [Pairing.identical] using hmoved⟩
  | renewed b _ only =>
    have hb : b ∈ candidates pool a := by simp [only]
    obtain ⟨-, -, hkind, hname⟩ := mem_candidates.mp hb
    refine ⟨.inl rfl, ?_, nofun, nofun⟩
    rintro _ _ ⟨⟩ ⟨⟩
    exact ⟨hkind.symm, hname.symm⟩
  | alone => exact Pairing.sound_added a

/-- **The pool loses the partner and nothing else.** -/
theorem perm (h : PairStep pool a p pool') : (p.before?.toList ++ pool').Perm pool := by
  cases h with
  | identical front back b _ pool_eq _ _ =>
    have hmiddle : (front ++ b :: back).Perm (b :: (front ++ back)) := List.perm_middle
    rw [pool_eq]
    exact hmiddle.symm
  | renewed b _ only =>
    have := perm_bystanders_candidates pool a
    rw [only] at this
    exact List.perm_append_comm.trans this
  | alone => exact perm_bystanders_candidates pool a

end PairStep

/-! ## All steps -/

/-- A run of steps: from a pool and the rules of the new side to their pairings and the pool that is
left. -/
inductive PairRun : List Entry → List Entry → List Pairing → List Entry → Prop
  | nil (pool : List Entry) : PairRun pool [] [] pool
  | cons {pool pool' left after : List Entry} {a : Entry} {p : Pairing} {paired : List Pairing}
      (step : PairStep pool a p pool') (rest : PairRun pool' after paired left) :
      PairRun pool (a :: after) (p :: paired) left

theorem pairEntries_cons (before : List Entry) (a : Entry) (rest : List Entry) :
    pairEntries before (a :: rest) =
      (pairOne before a).1 :: pairEntries (pairOne before a).2 rest := rfl

/-- The pairings are those of a run, and then one for each rule that is left. -/
theorem exists_pairRun (before after : List Entry) :
    ∃ paired left, PairRun before after paired left ∧
      pairEntries before after = paired ++ left.map Pairing.removed := by
  induction after generalizing before with
  | nil => exact ⟨[], before, .nil before, rfl⟩
  | cons a rest ih =>
    obtain ⟨paired, left, hrun, heq⟩ := ih (pairOne before a).2
    refine ⟨_, left, .cons (pairOne_step before a) hrun, ?_⟩
    rw [pairEntries_cons, heq, List.cons_append]

namespace PairRun

variable {before after left : List Entry} {paired : List Pairing}

theorem map_after? (h : PairRun before after paired left) :
    paired.map Pairing.after? = after.map some := by
  induction h with
  | nil => rfl
  | cons step _ ih => rw [List.map_cons, List.map_cons, step.after?_eq, ih]

theorem length_eq (h : PairRun before after paired left) : paired.length = after.length := by
  simpa using congrArg List.length h.map_after?

/-- **The partners and what is left are the rules of the old side.** -/
theorem perm (h : PairRun before after paired left) :
    (paired.filterMap Pairing.before? ++ left).Perm before := by
  induction h with
  | nil pool => exact .refl pool
  | @cons pool pool' left after a p paired step _ ih =>
    have hsplit : (p :: paired).filterMap Pairing.before? ++ left =
        p.before?.toList ++ (paired.filterMap Pairing.before? ++ left) := by
      cases hb : p.before? <;> simp [hb]
    rw [hsplit]
    exact (ih.append_left _).trans step.perm

theorem sound (h : PairRun before after paired left) : ∀ p ∈ paired, p.Sound := by
  induction h with
  | nil => simp
  | cons step _ ih =>
    intro p hp
    rcases List.mem_cons.mp hp with rfl | hp
    · exact step.sound
    · exact ih p hp

end PairRun

theorem filterMap_before?_removed (left : List Entry) :
    (left.map Pairing.removed).filterMap Pairing.before? = left := by
  rw [List.filterMap_map]
  exact List.filterMap_some

theorem filterMap_after?_removed (left : List Entry) :
    (left.map Pairing.removed).filterMap Pairing.after? = [] := by
  rw [List.filterMap_map]
  exact List.filterMap_eq_nil_iff.mpr fun _ _ => rfl

/-- Results that are all there are collected. -/
theorem filterMap_eq_of_map_eq {α β : Type} {f : α → Option β} {xs : List α} {ys : List β}
    (h : xs.map f = ys.map some) : xs.filterMap f = ys := by
  calc xs.filterMap f
      = (xs.map f).filterMap id := by rw [List.filterMap_map]; rfl
    _ = (ys.map some).filterMap id := by rw [h]
    _ = ys := by rw [List.filterMap_map]; exact List.filterMap_some

theorem filterMap_after?_pairEntries (before after : List Entry) :
    (pairEntries before after).filterMap Pairing.after? = after := by
  obtain ⟨paired, left, hrun, heq⟩ := exists_pairRun before after
  rw [heq, List.filterMap_append, filterMap_after?_removed, List.append_nil]
  exact filterMap_eq_of_map_eq hrun.map_after?

theorem perm_filterMap_before?_pairEntries (before after : List Entry) :
    ((pairEntries before after).filterMap Pairing.before?).Perm before := by
  obtain ⟨paired, left, hrun, heq⟩ := exists_pairRun before after
  rw [heq, List.filterMap_append, filterMap_before?_removed]
  exact hrun.perm

theorem sound_of_mem_pairEntries {before after : List Entry} {p : Pairing}
    (hp : p ∈ pairEntries before after) : p.Sound := by
  obtain ⟨paired, left, hrun, heq⟩ := exists_pairRun before after
  rw [heq, List.mem_append] at hp
  rcases hp with hp | hp
  · exact hrun.sound p hp
  · obtain ⟨b, -, rfl⟩ := List.mem_map.mp hp
    exact Pairing.sound_removed b

/-- A rule of a pairing is one of its side. -/
theorem mem_of_mem_pairEntries {before after : List Entry} {p : Pairing}
    (hp : p ∈ pairEntries before after) :
    (∀ b, p.before? = some b → b ∈ before) ∧ ∀ a, p.after? = some a → a ∈ after := by
  constructor
  · intro b hb
    refine (perm_filterMap_before?_pairEntries before after).mem_iff.mp ?_
    exact List.mem_filterMap.mpr ⟨p, hp, hb⟩
  · intro a ha
    rw [← filterMap_after?_pairEntries before after]
    exact List.mem_filterMap.mpr ⟨p, hp, ha⟩

/-- **Pairing loses no rule, takes none twice and makes none up.** The pairings of the new side come
first and have its rules in order, the later ones have a rule of the old side alone, and the rules
of the old side are those on the left sides in some order. No pairing is empty; rules on both sides
have the same kind and name; an identical pair says the same on both sides, and a moved pair is an
identical one of different files. -/
theorem pairEntries_accounts (before after : List Entry) :
    (pairEntries before after).filterMap Pairing.after? = after ∧
    ((pairEntries before after).take after.length).map Pairing.after? = after.map some ∧
    (∀ p ∈ (pairEntries before after).drop after.length, p.before?.isSome ∧ p.after? = none) ∧
    ((pairEntries before after).filterMap Pairing.before?).Perm before ∧
    ∀ p ∈ pairEntries before after,
      (p.before?.isSome ∨ p.after?.isSome) ∧
      (∀ b a, p.before? = some b → p.after? = some a →
        a.rule.kind = b.rule.kind ∧ a.rule.name = b.rule.name) ∧
      (p.isIdentical = true →
        ∃ b a, p.before? = some b ∧ p.after? = some a ∧ a.rule.isIdentical b.rule = true) ∧
      (p.wasMoved = true → p.isIdentical = true ∧
        ∃ b a, p.before? = some b ∧ p.after? = some a ∧ a.sourcePath ≠ b.sourcePath) := by
  obtain ⟨paired, left, hrun, heq⟩ := exists_pairRun before after
  refine ⟨filterMap_after?_pairEntries before after, ?_, ?_,
    perm_filterMap_before?_pairEntries before after, ?_⟩
  · rw [heq, List.take_left' hrun.length_eq]
    exact hrun.map_after?
  · rw [heq, List.drop_left' hrun.length_eq]
    intro p hp
    obtain ⟨b, -, rfl⟩ := List.mem_map.mp hp
    exact ⟨rfl, rfl⟩
  · intro p hp
    have hsound := sound_of_mem_pairEntries hp
    exact ⟨hsound.nonempty, hsound.joined, hsound.identical, hsound.moved⟩

end RuleDelta

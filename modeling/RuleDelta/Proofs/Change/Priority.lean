import RuleDelta.Change.Classification
import RuleDelta.Proofs.Change.Key
import RuleDelta.Proofs.Yaml.Same

/-!
# Rules that say the same come first

A rule of the new side looks for a rule that says the same before it looks for its name and kind.
The rules of the new side take their turns one after the other, each with the pool that the rules in
front of it have left, and the pool only shrinks. So what a rule does not find at its turn is in no
later pairing either.

* `Turn` is what happens at a place of the pairings, and `exists_turn` finds it;
* `PassedOver` says that a rule of the old side went by its name to a rule that says something else,
  while a rule that says the same has no identical partner;
* `cameFirst_of_passedOver` says that this takes a rule of the same kind and name in front, for
  which no other such rule was left;
* `differs_of_unpaired` says that rules without a partner on either side do not say the same, and
  `differs_of_added_of_removed` takes that to the entries of a changed file.
-/

namespace RuleDelta

/-! ## Turns -/

namespace PairStep

variable {pool pool' : List Entry} {a b : Entry} {p : Pairing}

/-- A rule of the old side that a step takes or leaves was in the pool. -/
theorem mem_pool (h : PairStep pool a p pool') (hb : p.before? = some b ∨ b ∈ pool') :
    b ∈ pool := by
  refine h.perm.subset (List.mem_append.mpr (hb.imp (fun hb => ?_) id))
  simp [hb]

/-- A rule without an identical partner has none in the pool. -/
theorem noneIdentical (h : PairStep pool a p pool') (hp : p.isIdentical = false) :
    NoneIdentical pool a := by
  cases h with
  | identical => cases hp
  | renewed _ unmatched => exact unmatched
  | alone unmatched => exact unmatched

/-- A partner that is not identical is the only one of the name and kind. -/
theorem only_candidate (h : PairStep pool a p pool') (hp : p.isIdentical = false)
    (hb : p.before? = some b) : candidates pool a = [b] ∧ pool' = bystanders pool a := by
  cases h with
  | identical => cases hp
  | renewed c _ only =>
    obtain rfl : c = b := Option.some.inj hb
    exact ⟨only, rfl⟩
  | alone => cases hb

theorem eq_added (h : PairStep pool a p pool') (hb : p.before? = none) : p = .added a := by
  cases h with
  | identical => cases hb
  | renewed => cases hb
  | alone => rfl

end PairStep

/-- What happens at a place of the pairings: a rule of the new side takes its step. -/
structure Turn (before after : List Entry) (i : Nat) (a : Entry) (p : Pairing)
    (pool pool' : List Entry) : Prop where
  step : PairStep pool a p pool'
  /-- The pool is what the rules in front have left. -/
  left : (((pairEntries before after).take i).filterMap Pairing.before? ++ pool).Perm before
  /-- The rules behind are paired with what the step leaves. -/
  behind : (pairEntries before after).drop (i + 1) = pairEntries pool' (after.drop (i + 1))

/-- The pairing at a place has the rule of the new side at that place, if there is one. -/
theorem after?_getElem? {before after : List Entry} {i : Nat} {p : Pairing}
    (hp : (pairEntries before after)[i]? = some p) : p.after? = after[i]? := by
  induction after generalizing before i with
  | nil =>
    obtain ⟨b, -, rfl⟩ := List.mem_map.mp (List.mem_of_getElem? hp)
    rfl
  | cons a rest ih =>
    cases i with
    | zero =>
      obtain rfl : (pairOne before a).1 = p := Option.some.inj hp
      exact (pairOne_step before a).after?_eq
    | succ i => exact ih hp

/-- **Every rule of the new side has its turn.** -/
theorem exists_turn {before after : List Entry} {i : Nat} {p : Pairing} {a : Entry}
    (hp : (pairEntries before after)[i]? = some p) (ha : p.after? = some a) :
    ∃ pool pool', Turn before after i a p pool pool' := by
  induction after generalizing before i with
  | nil =>
    rw [after?_getElem? hp] at ha
    cases ha
  | cons c rest ih =>
    have hstep := pairOne_step before c
    cases i with
    | zero =>
      obtain rfl : (pairOne before c).1 = p := Option.some.inj hp
      obtain rfl : c = a := Option.some.inj (hstep.after?_eq.symm.trans ha)
      exact ⟨before, _, hstep, .refl before, rfl⟩
    | succ i =>
      obtain ⟨pool, pool', turn⟩ := ih hp
      refine ⟨pool, pool', turn.step, ?_, turn.behind⟩
      have hfront : ((pairEntries before (c :: rest)).take (i + 1)).filterMap Pairing.before? =
          (pairOne before c).1.before?.toList ++
            ((pairEntries (pairOne before c).2 rest).take i).filterMap Pairing.before? := by
        rw [pairEntries_cons, List.take_succ_cons]
        cases hb : (pairOne before c).1.before? <;> simp [hb]
      rw [hfront, List.append_assoc]
      exact (turn.left.append_left _).trans hstep.perm

namespace Turn

variable {before after pool pool' : List Entry} {i k : Nat} {a b : Entry} {p q : Pairing}

/-- The rules of the old side in later pairings are in what the step leaves. -/
theorem mem_behind (turn : Turn before after i a p pool pool') (hk : i < k)
    (hq : (pairEntries before after)[k]? = some q) (hb : q.before? = some b) : b ∈ pool' := by
  obtain ⟨d, rfl⟩ := Nat.exists_eq_add_of_lt hk
  have hmem : q ∈ (pairEntries before after).drop (i + 1) := by
    refine List.mem_of_getElem? (i := d) ?_
    rwa [List.getElem?_drop, Nat.add_right_comm]
  rw [turn.behind] at hmem
  exact (mem_of_mem_pairEntries hmem).1 b hb

/-- The rules of the old side in this pairing and in later ones are in the pool. -/
theorem mem_pool (turn : Turn before after i a p pool pool')
    (hp : (pairEntries before after)[i]? = some p) (hk : i ≤ k)
    (hq : (pairEntries before after)[k]? = some q) (hb : q.before? = some b) : b ∈ pool := by
  rcases Nat.eq_or_lt_of_le hk with rfl | hlt
  · obtain rfl : p = q := Option.some.inj (hp.symm.trans hq)
    exact turn.step.mem_pool (.inl hb)
  · exact turn.step.mem_pool (.inr (turn.mem_behind hlt hq hb))

end Turn

/-! ## Rules that are passed over -/

/-- The rule `b` of the old side goes to the rule `a` of the new side at place `i`, which says
something else, while the named rule `a'` at place `j` says the same as `b` and has no identical
partner. -/
structure PassedOver (before after : List Entry) (i j : Nat) (b a a' : Entry) : Prop where
  taken : ∃ p, (pairEntries before after)[i]? = some p ∧ p.before? = some b ∧
    p.after? = some a ∧ p.isIdentical = false
  unmatched : ∃ q, (pairEntries before after)[j]? = some q ∧ q.after? = some a' ∧
    q.isIdentical = false
  named : a'.rule.name ≠ ""
  same : a'.rule.isIdentical b.rule = true

/-- **A rule that says the same is passed over only for a rule in front of it.** That one has the
same name and kind and found no other rule of them: the rules in front of it had left only this one.
The rule that is passed over has no partner at all. -/
theorem cameFirst_of_passedOver {before after : List Entry} {i j : Nat} {b a a' : Entry}
    (h : PassedOver before after i j b a a') :
    i < j ∧ (pairEntries before after)[j]? = some (.added a') ∧
      a.key = a'.key ∧
      ∃ pool, (((pairEntries before after).take i).filterMap Pairing.before? ++ pool).Perm before ∧
        candidates pool a = [b] := by
  obtain ⟨p, hp, hpb, hpa, hpi⟩ := h.taken
  obtain ⟨q, hq, hqa, hqi⟩ := h.unmatched
  obtain ⟨pool, pool', turn⟩ := exists_turn hp hpa
  obtain ⟨poolAt, poolBehind, turn'⟩ := exists_turn hq hqa
  obtain ⟨honly, rfl⟩ := turn.step.only_candidate hpi hpb
  have hlater : i < j := by
    by_contra hle
    have hmem : b ∈ poolAt := turn'.mem_pool hq (Nat.not_lt.mp hle) hp hpb
    have hdiffers := turn'.step.noneIdentical hqi h.named b hmem
    rw [h.same] at hdiffers
    cases hdiffers
  obtain ⟨-, -, hkey⟩ := mem_candidates_iff_key.mp (honly ▸ List.mem_singleton_self b)
  have hkeys : a.key = a'.key := by rw [← hkey, key_eq_of_isIdentical h.same]
  have halone : q.before? = none := by
    by_contra hsome
    obtain ⟨c, hc⟩ := Option.ne_none_iff_exists'.mp hsome
    -- the step has left no rule of the name and kind
    obtain ⟨-, hleft⟩ := List.mem_filter.mp (turn.mem_behind hlater hq hc)
    obtain ⟨honly', -⟩ := turn'.step.only_candidate hqi hc
    obtain ⟨-, herror, hckey⟩ :=
      mem_candidates_iff_key.mp (honly' ▸ List.mem_singleton_self c)
    have hcalled : c.isCalled a.rule.name a.rule.kind = true :=
      Entry.isCalled_iff_key.mpr ⟨herror, by rw [hckey, hkeys]⟩
    simp [hcalled] at hleft
  refine ⟨hlater, ?_, hkeys, pool, turn.left, honly⟩
  rw [hq, turn'.step.eq_added halone]

/-- The entry of an alert that says a text and stands on a line. -/
def alertSaying (name text : String) (line : Nat) : Entry :=
  .ofRule "a.yml" "a.yml" ⟨name, .alerting, .single line, .string text⟩

/-- An old rule goes to the first rule of its name, which says something else. -/
theorem sameRule_passedOver :
    ¬∀ (before after : List Entry) (i j : Nat) (b a a' : Entry),
      ¬PassedOver before after i j b a a' := by
  intro h
  refine h [alertSaying "A" "x" 1] [alertSaying "A" "y" 1, alertSaying "A" "x" 3] 0 1
    (alertSaying "A" "x" 1) (alertSaying "A" "y" 1) (alertSaying "A" "x" 3) ?_
  exact ⟨⟨_, rfl, rfl, rfl, rfl⟩, ⟨_, rfl, rfl, rfl⟩, by decide, rfl⟩

/-- Old rules, two of them of one name. -/
def sharedBefore : List Entry :=
  [alertSaying "B" "z" 1, alertSaying "A" "x" 3, alertSaying "A" "w" 5]

/-- New rules of that name. The first finds itself, and leaves one old rule for the two others. -/
def sharedAfter : List Entry :=
  [alertSaying "A" "w" 1, alertSaying "A" "y" 3, alertSaying "A" "x" 5]

theorem passedOver_sharedName : PassedOver sharedBefore sharedAfter 1 2
    (alertSaying "A" "x" 3) (alertSaying "A" "y" 3) (alertSaying "A" "x" 5) where
  taken := ⟨_, rfl, rfl, rfl, rfl⟩
  unmatched := ⟨_, rfl, rfl, rfl⟩
  named := by decide
  same := rfl

theorem cameFirst_sharedName :
    PassedOver sharedBefore sharedAfter 1 2 (alertSaying "A" "x" 3) (alertSaying "A" "y" 3)
        (alertSaying "A" "x" 5) ∧
      1 < 2 ∧ (pairEntries sharedBefore sharedAfter)[2]? = some (.added (alertSaying "A" "x" 5)) ∧
      (alertSaying "A" "y" 3).key = (alertSaying "A" "x" 5).key ∧
      ∃ pool, (((pairEntries sharedBefore sharedAfter).take 1).filterMap Pairing.before? ++
          pool).Perm sharedBefore ∧
        candidates pool (alertSaying "A" "y" 3) = [alertSaying "A" "x" 3] :=
  ⟨passedOver_sharedName, cameFirst_of_passedOver passedOver_sharedName⟩

/-! ## Rules without a partner -/

/-- Two rules do not say the same, in whichever order they are compared. The second order rests on
keys that are distinct. -/
def Rule.Differs (a b : Rule) : Prop :=
  a.isIdentical b = false ∧ (b.body.DistinctKeys → b.isIdentical a = false)

theorem Rule.differs_of_isIdentical {a b : Rule} (h : a.isIdentical b = false) : a.Differs b := by
  refine ⟨h, fun hkeys => ?_⟩
  by_contra hsame
  obtain ⟨hkind, hname, hbody⟩ := isIdentical_iff.mp (Bool.not_eq_false _ ▸ hsame)
  have : a.isIdentical b = true :=
    isIdentical_iff.mpr ⟨hkind.symm, hname.symm, Yaml.Value.same_symm hkeys hbody⟩
  rw [h] at this
  cases this

/-- **Rules that have no partner on either side do not say the same.** What is left of the old side
was there at the turn of every rule of the new side. -/
theorem differs_of_unpaired {before after : List Entry} {p q : Pairing} {a b : Entry}
    (hp : p ∈ pairEntries before after) (hpb : p.before? = none) (hpa : p.after? = some a)
    (hnamed : a.rule.name ≠ "") (hq : q ∈ pairEntries before after) (hqb : q.before? = some b)
    (hqa : q.after? = none) : a.rule.Differs b.rule := by
  obtain ⟨i, hi⟩ := List.mem_iff_getElem?.mp hp
  obtain ⟨k, hk⟩ := List.mem_iff_getElem?.mp hq
  obtain ⟨pool, pool', turn⟩ := exists_turn hi hpa
  obtain rfl := turn.step.eq_added hpb
  have hlt : i < after.length :=
    (List.getElem?_eq_some_iff.mp ((after?_getElem? hi).symm.trans hpa)).1
  have hle : after.length ≤ k := List.getElem?_eq_none_iff.mp ((after?_getElem? hk).symm.trans hqa)
  have hmem : b ∈ pool := turn.mem_pool hi (hlt.le.trans hle) hk hqb
  exact Rule.differs_of_isIdentical (turn.step.noneIdentical rfl hnamed b hmem)

/-- The state of the entry of a pairing tells which sides it has. -/
inductive ClassifiedAs (p : Pairing) (e : Entry) : Prop
  | added (a : Entry) (before : p.before? = none) (after : p.after? = some a)
      (state : e.state = .added) (rule : e.rule = a.rule)
  | kept (b a : Entry) (before : p.before? = some b) (after : p.after? = some a)
      (state : e.state ∈ [.moved, .excluded, .modified]) (rule : e.rule = a.rule)
  | removed (b : Entry) (before : p.before? = some b) (after : p.after? = none)
      (state : e.state = .removed) (rule : e.rule = b.rule)

theorem classifiedAs_of_classify {change : FileChange} {p : Pairing} {e : Entry}
    (h : classify change p = some e) : ClassifiedAs p e := by
  unfold classify at h
  split at h
  · rename_i a hb ha
    obtain rfl := Option.some.inj h
    exact .added a hb ha rfl rfl
  · rename_i b a hb ha
    obtain rfl := Option.some.inj h
    unfold Pairing.keptEntry
    split
    · exact .kept b a hb ha (by simp) rfl
    · split
      · exact .kept b a hb ha (by simp) rfl
      · exact .kept b a hb ha (by simp [Entry.changedBy]) rfl
  · rename_i b hb ha
    obtain rfl := Option.some.inj h
    exact .removed b hb ha rfl rfl
  · cases h

/-- Of the entries of a changed file, an added one and a removed one do not say the same. -/
theorem differs_of_added_of_removed {change : FileChange} {before after : List Entry}
    {e e' : Entry} (he : e ∈ classifyAll change before after) (hadded : e.state = .added)
    (hnamed : e.rule.name ≠ "") (he' : e' ∈ classifyAll change before after)
    (hremoved : e'.state = .removed) : e.rule.Differs e'.rule := by
  obtain ⟨p, hp, hclassify⟩ := List.mem_filterMap.mp he
  obtain ⟨q, hq, hclassify'⟩ := List.mem_filterMap.mp he'
  cases classifiedAs_of_classify hclassify with
  | kept b a _ _ state => simp [hadded] at state
  | removed b _ _ state => simp [hadded] at state
  | added a hpb hpa _ hrule =>
    cases classifiedAs_of_classify hclassify' with
    | added a _ _ state => simp [hremoved] at state
    | kept b a _ _ state => simp [hremoved] at state
    | removed b hqb hqa _ hrule' =>
      rw [hrule] at hnamed ⊢
      rw [hrule']
      exact differs_of_unpaired hp hpb hpa hnamed hq hqb hqa

end RuleDelta

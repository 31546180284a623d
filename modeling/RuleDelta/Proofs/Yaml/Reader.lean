import RuleDelta.Proofs.Yaml.Same
import RuleDelta.Yaml.Reader

/-!
# The keys of values that are read

A reading refuses a mapping as soon as a key of it is the same as an earlier one, so the values of a
text have distinct keys (`distinctKeys_of_readAll`). `Reading.Ensures` says that whatever a reading
returns has a property; its lemmas take a reading apart along its parts.
-/

namespace RuleDelta.Yaml

open Value

/-! ## Scalars -/

theorem distinctKeys_of_intValue? {n : Int} {v : Value} (h : intValue? n = some (.ok v)) :
    v.DistinctKeys := by
  unfold intValue? at h
  split at h
  · cases h
  · split at h
    · obtain rfl := Except.ok.inj (Option.some.inj h)
      exact .int n
    · cases h

theorem distinctKeys_of_int? {text : List Char} {value : Except Problem Value} {v : Value}
    (h : (int? text).bind intValue? = some value) (hvalue : value = .ok v) : v.DistinctKeys := by
  obtain ⟨n, -, hn⟩ := Option.bind_eq_some_iff.mp h
  exact distinctKeys_of_intValue? (hvalue ▸ hn)

theorem distinctKeys_of_resolve {text : List Char} {v : Value} (h : resolve text = .ok v) :
    v.DistinctKeys := by
  unfold resolve at h
  split at h
  · exact Except.ok.inj h ▸ .null
  · split at h
    · exact Except.ok.inj h ▸ .bool _
    · split at h
      · rename_i hint
        exact distinctKeys_of_int? hint h
      · split at h
        · exact Except.ok.inj h ▸ .float _
        · exact Except.ok.inj h ▸ .string _

theorem distinctKeys_of_coreValue {tag : List UInt8} {text : List Char} {v : Value}
    (h : coreValue tag text = .ok v) : v.DistinctKeys := by
  unfold coreValue at h
  split at h
  · split at h
    · exact Except.ok.inj h ▸ .bool _
    · cases h
  · split at h
    · split at h
      · rename_i hint
        exact distinctKeys_of_int? hint h
      · cases h
    · split at h
      · split at h
        · exact Except.ok.inj h ▸ .float _
        · cases h
      · split at h
        · split at h
          · exact Except.ok.inj h ▸ .null
          · cases h
        · exact Except.ok.inj h ▸ .string _

theorem distinctKeys_of_scalarValue {text : List Char} {style : ScalarStyle} {v : Value}
    (h : scalarValue text style = .ok v) : v.DistinctKeys := by
  unfold scalarValue at h
  split at h
  · exact distinctKeys_of_resolve h
  · exact Except.ok.inj h ▸ .string _

/-- A scalar has no keys. -/
theorem distinctKeys_of_untaggedScalar {tag : Option (List UInt8)} {text : List Char}
    {style : ScalarStyle} {v : Value} (h : untaggedScalar tag text style = .ok v) :
    v.DistinctKeys := by
  unfold untaggedScalar at h
  split at h
  · exact distinctKeys_of_scalarValue h
  · split at h
    · exact distinctKeys_of_scalarValue h
    · exact distinctKeys_of_coreValue h

/-! ## Readings -/

namespace Reading

variable {α β : Type} {P : α → Prop} {Q : β → Prop}

/-- Whatever the reading returns has the property. -/
def Ensures (x : Reading α) (P : α → Prop) : Prop :=
  ∀ count a count', x.run count = .ok (a, count') → P a

theorem ensures_pure {a : α} (h : P a) : (pure a : Reading α).Ensures P := by
  rintro count _ count' ⟨⟩
  exact h

theorem ensures_throw (e : Error) : (throw e : Reading α).Ensures P :=
  nofun

/-- What the first part returns is known to the second. -/
theorem Ensures.bind {x : Reading α} {f : α → Reading β} (hx : x.Ensures P)
    (hf : ∀ a, P a → (f a).Ensures Q) : (x >>= f).Ensures Q := by
  intro count b count'' h
  rw [StateT.run_bind] at h
  cases hrun : x.run count with
  | error e =>
    rw [hrun] at h
    cases h
  | ok found =>
    obtain ⟨a, count'⟩ := found
    rw [hrun] at h
    exact hf a (hx count a count' hrun) count' b count'' h

theorem ensures_bind {x : Reading α} {f : α → Reading β} (hf : ∀ a, (f a).Ensures Q) :
    (x >>= f).Ensures Q := by
  have hx : x.Ensures fun _ => True := fun _ _ _ _ => trivial
  exact hx.bind fun a _ => hf a

theorem ensures_mapM {xs : List β} {f : β → Reading α} (h : ∀ x, (f x).Ensures P) :
    (xs.mapM f).Ensures fun ys => ∀ y ∈ ys, P y := by
  induction xs with
  | nil => exact ensures_pure (by simp)
  | cons x xs ih =>
    rw [List.mapM_cons]
    refine (h x).bind fun y hy => ih.bind fun ys hys => ensures_pure ?_
    exact List.forall_mem_cons.mpr ⟨hy, hys⟩

end Reading

open Reading

namespace Document

/-- A tag adds no keys. -/
theorem ensures_applyTag {tag : Option (List UInt8)} {plain : Option (List UInt8) → Reading Value}
    (h : ∀ tag, (plain tag).Ensures DistinctKeys) : (applyTag tag plain).Ensures DistinctKeys := by
  unfold applyTag
  split
  · exact h tag
  · exact (h none).bind fun v hv => ensures_pure (.tagged _ hv)

/-- **The entries that are read keep their keys apart**: the invariant of the entries read so far is
that of a mapping with distinct keys. -/
theorem ensures_entriesFrom {mark : Mark} {child : Node → Reading Value}
    (hchild : ∀ node, (child node).Ensures DistinctKeys) (nodes : List (Node × Node))
    {read : List (Value × Value)} (hread : (mapping read).DistinctKeys) :
    (entriesFrom mark child read nodes).Ensures fun entries => (mapping entries).DistinctKeys := by
  induction nodes generalizing read with
  | nil => exact ensures_pure hread
  | cons node rest ih =>
    obtain ⟨keyNode, valueNode⟩ := node
    unfold entriesFrom
    refine (hchild keyNode).bind fun key hkey => ?_
    split
    · exact ensures_throw _
    · rename_i hnew
      refine (hchild valueNode).bind fun value hvalue => ih ?_
      cases hread with
      | mapping apart keys values =>
        refine .mapping ?_ ?_ ?_
        · refine List.pairwise_append.mpr ⟨apart, List.pairwise_singleton _ _, ?_⟩
          intro e he e' he'
          obtain rfl := List.mem_singleton.mp he'
          have hall : ∀ k v, (k, v) ∈ read → k.same key = false := by simpa using hnew
          exact hall e.1 e.2 he
        · exact List.forall_mem_append.mpr ⟨keys, List.forall_mem_singleton.mpr hkey⟩
        · exact List.forall_mem_append.mpr ⟨values, List.forall_mem_singleton.mpr hvalue⟩

theorem ensures_nodeValue (d : Document) {child? : Option (Node → Reading Value)}
    (hchild : ∀ child ∈ child?, ∀ node, (child node).Ensures DistinctKeys) (node : Node) :
    (d.nodeValue child? node).Ensures DistinctKeys := by
  unfold nodeValue
  refine ensures_bind fun node => ?_
  split
  · refine ensures_applyTag fun tag => ?_
    split
    · rename_i value hvalue
      exact ensures_pure (distinctKeys_of_untaggedScalar hvalue)
    · exact ensures_throw _
  · refine ensures_applyTag fun _ => ?_
    split
    · rename_i child
      exact (ensures_mapM (hchild child rfl)).bind fun items hitems =>
        ensures_pure (.sequence hitems)
    · exact ensures_throw _
  · refine ensures_applyTag fun _ => ?_
    split
    · rename_i child
      refine (ensures_entriesFrom (hchild child rfl) _ (.mapping .nil ?_ ?_)).bind
        fun entries hentries => ensures_pure hentries
      · simp
      · simp
    · exact ensures_throw _
  · exact ensures_throw _
  · exact ensures_throw _

theorem ensures_valueWithin (d : Document) (depth : Nat) (node : Node) :
    (d.valueWithin depth node).Ensures DistinctKeys := by
  induction depth generalizing node with
  | zero => exact d.ensures_nodeValue (by simp) node
  | succ depth ih =>
    refine d.ensures_nodeValue (fun child hchild => ?_) node
    obtain rfl := Option.some.inj hchild
    exact ih

theorem distinctKeys_of_value {d : Document} {v : Value} (h : d.value = .ok v) :
    v.DistinctKeys := by
  unfold value at h
  cases hrun : (d.valueWithin depthLimit d.root).run 0 with
  | error e =>
    rw [hrun] at h
    cases h
  | ok found =>
    obtain ⟨v', count⟩ := found
    rw [hrun] at h
    cases herror : d.error? with
    | some e =>
      simp only [herror] at h
      cases h
    | none =>
      simp only [herror] at h
      obtain rfl := Except.ok.inj h
      exact d.ensures_valueWithin _ _ _ _ _ hrun

end Document

/-- **The values of a text have distinct keys.** -/
theorem distinctKeys_of_readAll {text : List Char} {values : List Value}
    (h : readAll text = .ok values) : ∀ v ∈ values, v.DistinctKeys := by
  unfold readAll at h
  generalize Document.ofText text = documents at h
  induction documents generalizing values with
  | nil =>
    obtain rfl := Except.ok.inj h
    simp
  | cons d documents ih =>
    rw [List.mapM_cons] at h
    cases hd : d.value with
    | error e =>
      rw [hd] at h
      cases h
    | ok v =>
      cases hrest : documents.mapM Document.value with
      | error e =>
        rw [hd, hrest] at h
        cases h
      | ok vs =>
        rw [hd, hrest] at h
        obtain rfl := Except.ok.inj h
        exact List.forall_mem_cons.mpr ⟨Document.distinctKeys_of_value hd, ih hrest⟩

end RuleDelta.Yaml

import Mathlib.Data.List.Forall2
import RuleDelta.RuleFile.Parse

/-!
# The keys for rules in a value

A value is searched for the keys under which rules stand: through mappings, sequences and tags, but
not into the items of a key, which are rules. A key has a place, the indices on the way to it, and
the order of places is that of the text.

* `IsText` is what a key says, whatever its tags;
* `KeyAt` says that a key with these items stands at a place;
* `KeysOf` says that some keys are all that a value has, in the order of the text;
* `exists_keysOf` says that the items of these keys are what `ruleLists` gives.
-/

namespace RuleDelta

/-- What holds of a value if it holds of the values in it, holds of all values. Keys do not count.
-/
theorem Yaml.Value.induction {P : Yaml.Value → Prop} (null : P .null) (bool : ∀ b, P (.bool b))
    (int : ∀ n, P (.int n)) (float : ∀ bits, P (.float bits)) (string : ∀ s, P (.string s))
    (sequence : ∀ items, (∀ v ∈ items, P v) → P (.sequence items))
    (mapping : ∀ entries : List (Yaml.Value × Yaml.Value), (∀ e ∈ entries, P e.2) →
      P (.mapping entries))
    (tagged : ∀ tag v, P v → P (.tagged tag v)) : ∀ v, P v
  | .null => null
  | .bool b => bool b
  | .int n => int n
  | .float bits => float bits
  | .string s => string s
  | .sequence items => sequence items fun v _ =>
      induction null bool int float string sequence mapping tagged v
  | .mapping entries => mapping entries fun e _ =>
      induction null bool int float string sequence mapping tagged e.2
  | .tagged tag v => tagged tag v (induction null bool int float string sequence mapping tagged v)
termination_by v => sizeOf v
decreasing_by
  all_goals simp only [Yaml.Value.sequence.sizeOf_spec, Yaml.Value.mapping.sizeOf_spec,
    Yaml.Value.tagged.sizeOf_spec]
  · have := List.sizeOf_lt_of_mem ‹v ∈ items›
    omega
  · have := List.sizeOf_lt_of_mem ‹e ∈ entries›
    have : sizeOf e = 1 + sizeOf e.1 + sizeOf e.2 := rfl
    omega
  · omega

/-- A value is a text, whatever its tags. -/
inductive Yaml.Value.IsText : Yaml.Value → String → Prop
  | string (s : String) : IsText (.string s) s
  | tagged (tag : String) {v : Yaml.Value} {s : String} (inside : IsText v s) :
      IsText (.tagged tag v) s

theorem Yaml.Value.text?_eq_some_iff {v : Yaml.Value} {s : String} :
    v.text? = some s ↔ v.IsText s := by
  constructor
  · intro h
    induction v using Value.induction with
    | string s' =>
      obtain rfl := Option.some.inj h
      exact .string s'
    | tagged tag v ih => exact .tagged tag (ih h)
    | _ => cases h
  · intro h
    induction h with
    | string s => rfl
    | tagged tag _ ih => exact ih

namespace RuleFile

open Yaml

/-- A key for rules stands at a place in a value, and these are its items. A value of such a key
that is no sequence counts as no items and is searched further. -/
inductive KeyAt : Value → List Nat → List Value → Prop
  /-- An entry of the mapping is a key for rules with a sequence under it. -/
  | list {entries : List (Value × Value)} {i : Nat} {key : Value} {items : List Value}
      (here : entries[i]? = some (key, .sequence items)) (rules : key.IsText "rules") :
      KeyAt (.mapping entries) [i] items
  /-- An entry of the mapping is a key for rules with something else under it. -/
  | noList {entries : List (Value × Value)} {i : Nat} {key v : Value}
      (here : entries[i]? = some (key, v)) (rules : key.IsText "rules")
      (other : ∀ items, v ≠ .sequence items) : KeyAt (.mapping entries) [i] []
  /-- A key stands in the value of an entry, which is not the sequence of a key for rules. -/
  | entry {entries : List (Value × Value)} {i : Nat} {key v : Value} {place : List Nat}
      {items : List Value} (here : entries[i]? = some (key, v))
      (searched : key.IsText "rules" → ∀ items, v ≠ .sequence items)
      (inside : KeyAt v place items) : KeyAt (.mapping entries) (i :: place) items
  | item {values : List Value} {i : Nat} {v : Value} {place : List Nat} {items : List Value}
      (here : values[i]? = some v) (inside : KeyAt v place items) :
      KeyAt (.sequence values) (i :: place) items
  | tagged (tag : String) {v : Value} {place : List Nat} {items : List Value}
      (inside : KeyAt v place items) : KeyAt (.tagged tag v) (0 :: place) items

/-- The place of a key has an index at least. -/
theorem KeyAt.nil_lt {v : Value} {place : List Nat} {items : List Value}
    (h : KeyAt v place items) : [] < place := by
  cases h <;> exact List.nil_lt_cons _ _

/-- A key for rules: its place and its items. -/
abbrev PlacedKey := List Nat × List Value

/-- These are the keys with a property, each once and by ascending places. -/
structure Enumerates (P : List Nat → List Value → Prop) (keys : List PlacedKey) : Prop where
  mem_iff : ∀ place items, (place, items) ∈ keys ↔ P place items
  ascending : keys.Pairwise fun a b => a.1 < b.1

/-- These are the keys for rules in a value, in the order of the text. -/
abbrev KeysOf (v : Value) (keys : List PlacedKey) : Prop :=
  Enumerates (KeyAt v) keys

/-- There is one way to list the keys with a property. -/
theorem Enumerates.unique {P : List Nat → List Value → Prop} {keys keys' : List PlacedKey}
    (h : Enumerates P keys) (h' : Enumerates P keys') : keys = keys' := by
  have hnodup : ∀ {l : List PlacedKey}, (l.Pairwise fun a b => a.1 < b.1) → l.Nodup := by
    refine fun hl => hl.imp ?_
    rintro a _ hlt rfl
    exact List.lt_irrefl a.1 hlt
  have hperm : keys.Perm keys' := (List.perm_ext_iff_of_nodup (hnodup h.ascending)
    (hnodup h'.ascending)).mpr fun key => (h.mem_iff _ _).trans (h'.mem_iff _ _).symm
  exact hperm.eq_of_pairwise (fun _ _ _ _ hab hba => absurd hab (List.lt_asymm hba)) h.ascending
    h'.ascending

/-! ## Keys behind an index -/

/-- The keys of several parts, each behind the index of its part. -/
def behindIndices (i : Nat) : List (List PlacedKey) → List PlacedKey
  | [] => []
  | keys :: rest => (keys.map fun key => (i :: key.1, key.2)) ++ behindIndices (i + 1) rest

theorem map_snd_behindIndices (i : Nat) (parts : List (List PlacedKey)) :
    (behindIndices i parts).map Prod.snd = parts.flatMap fun keys => keys.map Prod.snd := by
  induction parts generalizing i with
  | nil => rfl
  | cons keys rest ih =>
    rw [behindIndices, List.map_append, List.map_map, ih, List.flatMap_cons]
    rfl

theorem mem_behindIndices {i : Nat} {parts : List (List PlacedKey)} {place : List Nat}
    {items : List Value} : (place, items) ∈ behindIndices i parts ↔
      ∃ j rest keys, place = (i + j) :: rest ∧ parts[j]? = some keys ∧ (rest, items) ∈ keys := by
  induction parts generalizing i with
  | nil => simp [behindIndices]
  | cons keys parts ih =>
    rw [behindIndices, List.mem_append, ih]
    constructor
    · rintro (hmem | ⟨j, rest, keys', rfl, hkeys', hmem⟩)
      · obtain ⟨⟨rest, items'⟩, hkey, heq⟩ := List.mem_map.mp hmem
        obtain ⟨rfl, rfl⟩ := Prod.mk.inj heq
        exact ⟨0, rest, keys, rfl, rfl, hkey⟩
      · exact ⟨j + 1, rest, keys', by rw [Nat.add_assoc, Nat.add_comm 1 j], hkeys', hmem⟩
    · rintro ⟨j, rest, keys', rfl, hkeys', hmem⟩
      cases j with
      | zero =>
        obtain rfl := Option.some.inj hkeys'
        exact .inl (List.mem_map.mpr ⟨(rest, items), hmem, rfl⟩)
      | succ j =>
        exact .inr ⟨j, rest, keys', by rw [Nat.add_assoc, Nat.add_comm 1 j], hkeys', hmem⟩

theorem ascending_behindIndices {i : Nat} {parts : List (List PlacedKey)}
    (h : ∀ keys ∈ parts, keys.Pairwise fun a b => a.1 < b.1) :
    (behindIndices i parts).Pairwise fun a b => a.1 < b.1 := by
  induction parts generalizing i with
  | nil => exact .nil
  | cons keys parts ih =>
    obtain ⟨hkeys, hparts⟩ := List.forall_mem_cons.mp h
    rw [behindIndices]
    refine List.pairwise_append.mpr ⟨?_, ih hparts, ?_⟩
    · refine List.pairwise_map.mpr (hkeys.imp fun {a b} hab => ?_)
      exact List.cons_lt_cons_iff.mpr (.inr ⟨rfl, hab⟩)
    · intro a ha b hb
      obtain ⟨key, -, rfl⟩ := List.mem_map.mp ha
      obtain ⟨j, rest, keys', hplace, -⟩ := mem_behindIndices.mp (show (b.1, b.2) ∈ _ from hb)
      rw [hplace]
      exact List.cons_lt_cons_iff.mpr (.inl (by omega))

/-- Parts whose keys are known have the keys behind the indices of the parts. -/
theorem enumerates_behindIndices {α : Type} {P : α → List Nat → List Value → Prop} {xs : List α}
    {parts : List (List PlacedKey)}
    (h : List.Forall₂ (fun x keys => Enumerates (P x) keys) xs parts) :
    Enumerates (fun place items => ∃ i rest x, place = i :: rest ∧ xs[i]? = some x ∧ P x rest items)
      (behindIndices 0 parts) := by
  constructor
  · intro place items
    rw [mem_behindIndices]
    constructor
    · rintro ⟨i, rest, keys, rfl, hkeys, hmem⟩
      obtain ⟨hi, rfl⟩ := List.getElem?_eq_some_iff.mp hkeys
      have hix : i < xs.length := h.length_eq ▸ hi
      refine ⟨i, rest, xs[i], by rw [Nat.zero_add], List.getElem?_eq_getElem hix, ?_⟩
      exact ((h.get hix hi).mem_iff rest items).mp hmem
    · rintro ⟨i, rest, x, rfl, hx, hitems⟩
      obtain ⟨hi, rfl⟩ := List.getElem?_eq_some_iff.mp hx
      have hik : i < parts.length := h.length_eq ▸ hi
      refine ⟨i, rest, parts[i], by rw [Nat.zero_add], List.getElem?_eq_getElem hik, ?_⟩
      exact ((h.get hi hik).mem_iff rest items).mpr hitems
  · refine ascending_behindIndices fun keys hkeys => ?_
    obtain ⟨i, hi, rfl⟩ := List.getElem_of_mem hkeys
    have hix : i < xs.length := h.length_eq ▸ hi
    exact (h.get hix hi).ascending

/-- What exists for every member of a list exists for all of them together. -/
theorem exists_forall₂ {α β : Type} {R : α → β → Prop} {xs : List α}
    (h : ∀ x ∈ xs, ∃ y, R x y) : ∃ ys, List.Forall₂ R xs ys := by
  induction xs with
  | nil => exact ⟨[], .nil⟩
  | cons x xs ih =>
    obtain ⟨⟨y, hy⟩, hxs⟩ := List.forall_mem_cons.mp h
    obtain ⟨ys, hys⟩ := ih hxs
    exact ⟨y :: ys, .cons hy hys⟩

/-! ## The search -/

/-- The items under each key for rules in an entry of a mapping. -/
def entryLists (e : Value × Value) : List (List Value) :=
  if e.1.text? = some "rules" then
    match items? e.2 with
    | some items => [items]
    | none => [] :: ruleLists e.2
  else ruleLists e.2

theorem ruleLists_mapping (entries : List (Value × Value)) :
    ruleLists (.mapping entries) = entries.flatMap entryLists := by
  rw [ruleLists]
  induction entries with
  | nil => rfl
  | cons e entries ih =>
    obtain ⟨key, v⟩ := e
    rw [ruleListsOfEntries, ih, List.flatMap_cons]
    rfl

theorem ruleLists_sequence (items : List Value) :
    ruleLists (.sequence items) = items.flatMap ruleLists := by
  rw [ruleLists]
  induction items with
  | nil => rfl
  | cons v items ih => rw [ruleListsOfItems, ih, List.flatMap_cons]

theorem ruleLists_tagged (tag : String) (v : Value) : ruleLists (.tagged tag v) = ruleLists v := by
  rw [ruleLists]

/-- A key for rules stands at a place in an entry of a mapping: the key of the entry itself, or one
in a value that is searched. -/
def KeyInEntry (e : Value × Value) (place : List Nat) (items : List Value) : Prop :=
  (e.1.text? = some "rules" ∧ place = [] ∧ items = (items? e.2).getD []) ∨
    ((e.1.text? = some "rules" → items? e.2 = none) ∧ KeyAt e.2 place items)

theorem items?_eq_some_iff {v : Value} {items : List Value} :
    items? v = some items ↔ v = .sequence items := by
  unfold items?
  split
  · simp
  · rename_i hother
    exact ⟨nofun, fun h => absurd h (hother items)⟩

theorem items?_eq_none_iff {v : Value} : items? v = none ↔ ∀ items, v ≠ .sequence items := by
  rw [Option.eq_none_iff_forall_ne_some]
  exact forall_congr' fun items => not_congr items?_eq_some_iff

theorem keyAt_mapping_iff {entries : List (Value × Value)} {place : List Nat}
    {items : List Value} : KeyAt (.mapping entries) place items ↔
      ∃ i rest e, place = i :: rest ∧ entries[i]? = some e ∧ KeyInEntry e rest items := by
  constructor
  · intro h
    cases h with
    | list here rules =>
      exact ⟨_, [], _, rfl, here, .inl ⟨Value.text?_eq_some_iff.mpr rules, rfl, rfl⟩⟩
    | noList here rules other =>
      refine ⟨_, [], _, rfl, here, .inl ⟨Value.text?_eq_some_iff.mpr rules, rfl, ?_⟩⟩
      rw [items?_eq_none_iff.mpr other, Option.getD_none]
    | entry here searched inside =>
      refine ⟨_, _, _, rfl, here, .inr ⟨fun rules => ?_, inside⟩⟩
      exact items?_eq_none_iff.mpr (searched (Value.text?_eq_some_iff.mp rules))
  · rintro ⟨i, rest, ⟨key, v⟩, rfl, here, ⟨rules, rfl, rfl⟩ | ⟨searched, inside⟩⟩
    · have rules := Value.text?_eq_some_iff.mp rules
      cases hitems : items? v with
      | some items => exact .list (items?_eq_some_iff.mp hitems ▸ here) rules
      | none => exact .noList here rules (items?_eq_none_iff.mp hitems)
    · refine .entry here (fun rules => ?_) inside
      exact items?_eq_none_iff.mp (searched (Value.text?_eq_some_iff.mpr rules))

theorem keyAt_sequence_iff {values : List Value} {place : List Nat} {items : List Value} :
    KeyAt (.sequence values) place items ↔
      ∃ i rest v, place = i :: rest ∧ values[i]? = some v ∧ KeyAt v rest items := by
  constructor
  · intro h
    cases h with
    | item here inside => exact ⟨_, _, _, rfl, here, inside⟩
  · rintro ⟨i, rest, v, rfl, here, inside⟩
    exact .item here inside

theorem keyAt_tagged_iff {tag : String} {v : Value} {place : List Nat} {items : List Value} :
    KeyAt (.tagged tag v) place items ↔
      ∃ i rest w, place = i :: rest ∧ [v][i]? = some w ∧ KeyAt w rest items := by
  constructor
  · intro h
    cases h with
    | tagged _ inside => exact ⟨0, _, _, rfl, rfl, inside⟩
  · rintro ⟨i, rest, w, rfl, here, inside⟩
    obtain ⟨hi, rfl⟩ := List.getElem?_eq_some_iff.mp here
    obtain rfl : i = 0 := by simpa using hi
    exact .tagged tag inside

theorem Enumerates.of_iff {P Q : List Nat → List Value → Prop} {keys : List PlacedKey}
    (h : Enumerates P keys) (hiff : ∀ place items, Q place items ↔ P place items) :
    Enumerates Q keys :=
  ⟨fun place items => (h.mem_iff place items).trans (hiff place items).symm, h.ascending⟩

/-- The keys of an entry are the key itself and those in a value that is searched, in this order. -/
theorem exists_keysInEntry {e : Value × Value}
    (h : ∃ keys, KeysOf e.2 keys ∧ keys.map Prod.snd = ruleLists e.2) :
    ∃ keys, Enumerates (KeyInEntry e) keys ∧ keys.map Prod.snd = entryLists e := by
  obtain ⟨inner, hinner, hlists⟩ := h
  by_cases hrules : e.1.text? = some "rules"
  · cases hitems : items? e.2 with
    | some items =>
      refine ⟨[([], items)], ⟨fun place found => ?_, List.pairwise_singleton _ _⟩, ?_⟩
      · simp [KeyInEntry, hrules, hitems]
      · simp [entryLists, hrules, hitems]
    | none =>
      refine ⟨([], []) :: inner, ⟨fun place found => ?_, ?_⟩, ?_⟩
      · simp [KeyInEntry, hrules, hitems, hinner.mem_iff]
      · refine List.pairwise_cons.mpr ⟨fun key hkey => ?_, hinner.ascending⟩
        exact KeyAt.nil_lt ((hinner.mem_iff key.1 key.2).mp hkey)
      · simp [entryLists, hrules, hitems, hlists]
  · refine ⟨inner, hinner.of_iff fun place items => ?_, ?_⟩
    · simp [KeyInEntry, hrules]
    · simp [entryLists, hrules, hlists]

/-- Parts that each have their keys have them together. -/
theorem exists_keys_of_parts {α : Type} {P : α → List Nat → List Value → Prop}
    {lists : α → List (List Value)} {xs : List α}
    (h : ∀ x ∈ xs, ∃ keys, Enumerates (P x) keys ∧ keys.map Prod.snd = lists x) :
    ∃ keys, Enumerates (fun place items =>
        ∃ i rest x, place = i :: rest ∧ xs[i]? = some x ∧ P x rest items) keys ∧
      keys.map Prod.snd = xs.flatMap lists := by
  obtain ⟨parts, hparts⟩ := exists_forall₂ h
  refine ⟨_, enumerates_behindIndices (hparts.imp fun _ _ h => h.1), ?_⟩
  rw [map_snd_behindIndices]
  clear h
  induction hparts with
  | nil => rfl
  | cons hx _ ih => rw [List.flatMap_cons, List.flatMap_cons, hx.2, ih]

/-- **The search finds the keys for rules in a value with their items**, all of them, each once and
in the order of the text. -/
theorem exists_keysOf (v : Value) : ∃ keys, KeysOf v keys ∧ keys.map Prod.snd = ruleLists v := by
  have hnone : ∀ v, (∀ place items, ¬KeyAt v place items) → ruleLists v = [] →
      ∃ keys, KeysOf v keys ∧ keys.map Prod.snd = ruleLists v := fun v hkey hlists =>
    ⟨[], ⟨fun place items => by simp [hkey], .nil⟩, hlists.symm⟩
  induction v using Value.induction with
  | null => exact hnone _ nofun (by rw [ruleLists] <;> simp)
  | bool => exact hnone _ nofun (by rw [ruleLists] <;> simp)
  | int => exact hnone _ nofun (by rw [ruleLists] <;> simp)
  | float => exact hnone _ nofun (by rw [ruleLists] <;> simp)
  | string => exact hnone _ nofun (by rw [ruleLists] <;> simp)
  | sequence items ih =>
    obtain ⟨keys, hkeys, hlists⟩ := exists_keys_of_parts ih
    exact ⟨keys, hkeys.of_iff fun _ _ => keyAt_sequence_iff, by rw [hlists, ruleLists_sequence]⟩
  | mapping entries ih =>
    obtain ⟨keys, hkeys, hlists⟩ :=
      exists_keys_of_parts fun e he => exists_keysInEntry (ih e he)
    exact ⟨keys, hkeys.of_iff fun _ _ => keyAt_mapping_iff, by rw [hlists, ruleLists_mapping]⟩
  | tagged tag v ih =>
    obtain ⟨keys, hkeys, hlists⟩ := exists_keys_of_parts (List.forall_mem_singleton.mpr ih)
    refine ⟨keys, hkeys.of_iff fun _ _ => keyAt_tagged_iff, ?_⟩
    rw [hlists, List.flatMap_singleton, ruleLists_tagged]

end RuleFile

end RuleDelta

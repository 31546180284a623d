import Mathlib.Data.List.Find
import Mathlib.Data.List.Nodup
import Mathlib.Data.List.Pairwise
import Mathlib.Data.List.Perm.Subperm
import RuleDelta.Yaml.Value

/-!
# Sameness of values

Values are compared entry by entry, and an entry of a mapping is looked up in the other mapping by
its key. That this is an equivalence rests on the keys: no mapping may have two keys that are the
same.

* `Value.DistinctKeys` says so of a value and of all values in it;
* `Value.Regular` says that a value is the same as itself and that whatever it is the same as
  compares as it does; `DistinctKeys.regular` proves it;
* `same_symm` and `same_trans` follow.
-/

namespace RuleDelta.Yaml

namespace Value

/-! ## Binary numbers -/

/-- The bits of a zero, of either sign. -/
def IsZeroBits (bits : UInt64) : Prop :=
  bits &&& ~~~Decimal.signBit = 0

theorem IsZeroBits.isNanBits {bits : UInt64} (h : IsZeroBits bits) : isNanBits bits = false := by
  rw [Value.isNanBits, h]
  decide

theorem isZeroBits_or_iff {a b : UInt64} : IsZeroBits (a ||| b) ↔ IsZeroBits a ∧ IsZeroBits b := by
  simp only [IsZeroBits, ← UInt64.toNat_inj, UInt64.toNat_and, UInt64.toNat_or,
    Nat.and_or_distrib_right, UInt64.toNat_zero, Nat.or_eq_zero_iff]

theorem sameBits_iff {a b : UInt64} : sameBits a b = true ↔
    (isNanBits a = true ∧ isNanBits b = true) ∨ (a = b ∧ isNanBits a = false) ∨
      (IsZeroBits a ∧ IsZeroBits b) := by
  rw [← isZeroBits_or_iff]
  simp only [sameBits, IsZeroBits, Bool.or_eq_true, Bool.and_eq_true, beq_iff_eq,
    Bool.not_eq_true', or_assoc]

theorem sameBits_self (bits : UInt64) : sameBits bits bits = true := by
  rw [sameBits_iff]
  cases isNanBits bits <;> simp

/-- Binary numbers that are the same compare alike. -/
theorem sameBits_congr {a b : UInt64} (h : sameBits a b = true) (c : UInt64) :
    sameBits a c = sameBits b c := by
  rw [Bool.eq_iff_iff, sameBits_iff, sameBits_iff]
  rcases sameBits_iff.mp h with ⟨ha, hb⟩ | ⟨rfl, -⟩ | ⟨ha, hb⟩
  · have hza : ¬IsZeroBits a := fun hz => by simp [hz.isNanBits] at ha
    have hzb : ¬IsZeroBits b := fun hz => by simp [hz.isNanBits] at hb
    simp [ha, hb, hza, hzb]
  · exact Iff.rfl
  · have hzero : ∀ x, IsZeroBits x → ((isNanBits x = true ∧ isNanBits c = true) ∨
        (x = c ∧ isNanBits x = false) ∨ (IsZeroBits x ∧ IsZeroBits c) ↔ IsZeroBits c) := by
      intro x hx
      constructor
      · rintro (⟨hnan, -⟩ | ⟨rfl, -⟩ | ⟨-, hc⟩)
        · simp [hx.isNanBits] at hnan
        · exact hx
        · exact hc
      · exact fun hc => .inr (.inr ⟨hx, hc⟩)
    rw [hzero a ha, hzero b hb]

/-! ## Distinct keys -/

/-- No mapping in the value has two keys that are the same. -/
inductive DistinctKeys : Value → Prop
  | null : DistinctKeys .null
  | bool (b : Bool) : DistinctKeys (.bool b)
  | int (n : Int) : DistinctKeys (.int n)
  | float (bits : UInt64) : DistinctKeys (.float bits)
  | string (s : String) : DistinctKeys (.string s)
  | sequence {items : List Value} (each : ∀ v ∈ items, DistinctKeys v) :
      DistinctKeys (.sequence items)
  | mapping {entries : List (Value × Value)}
      (apart : entries.Pairwise fun a b => a.1.same b.1 = false)
      (keys : ∀ e ∈ entries, DistinctKeys e.1) (values : ∀ e ∈ entries, DistinctKeys e.2) :
      DistinctKeys (.mapping entries)
  | tagged (tag : String) {v : Value} (value : DistinctKeys v) : DistinctKeys (.tagged tag v)

/-- The value is the same as itself, and whatever it is the same as compares as it does. -/
structure Regular (a : Value) : Prop where
  refl : a.same a = true
  congr : ∀ b c, a.same b = true → a.same c = b.same c

/-! ## Lists of values -/

/-- The items of a sequence compare as regular values do, place by place. -/
theorem sameItems_self {as : List Value} (h : ∀ v ∈ as, v.Regular) : sameItems as as = true := by
  induction as with
  | nil => rw [sameItems]
  | cons a as ih =>
    obtain ⟨ha, has⟩ := List.forall_mem_cons.mp h
    rw [sameItems, ha.refl, ih has, Bool.and_self]

theorem sameItems_congr {as bs : List Value} (h : ∀ v ∈ as, v.Regular)
    (hab : sameItems as bs = true) (cs : List Value) : sameItems as cs = sameItems bs cs := by
  induction as generalizing bs cs with
  | nil =>
    cases bs with
    | nil => rfl
    | cons => simp [sameItems] at hab
  | cons a as ih =>
    cases bs with
    | nil => simp [sameItems] at hab
    | cons b bs =>
      rw [sameItems, Bool.and_eq_true] at hab
      obtain ⟨ha, has⟩ := List.forall_mem_cons.mp h
      cases cs with
      | nil => simp [sameItems]
      | cons c cs => rw [sameItems, sameItems, ha.congr b c hab.1, ih has hab.2 cs]

/-! ## Mappings -/

/-- The entry that the look-up of a key finds. -/
def entryAt? (entries : List (Value × Value)) (key : Value) : Option (Value × Value) :=
  entries.find? fun e => key.same e.1

theorem same_of_entryAt? {entries : List (Value × Value)} {key : Value} {e : Value × Value}
    (h : entryAt? entries key = some e) : e ∈ entries ∧ key.same e.1 = true :=
  ⟨List.mem_of_find?_eq_some h, by simpa using List.find?_some h⟩

theorem entriesIn_iff {as bs : List (Value × Value)} : entriesIn as bs = true ↔
    ∀ e ∈ as, ∃ e', entryAt? bs e.1 = some e' ∧ e.2.same e'.2 = true := by
  induction as with
  | nil => simp [entriesIn]
  | cons a as ih =>
    obtain ⟨k, v⟩ := a
    rw [entriesIn, Bool.and_eq_true, ih, List.forall_mem_cons]
    refine and_congr_left' ?_
    unfold entryAt?
    cases bs.find? fun e => k.same e.1 with
    | none => simp
    | some e => simp

theorem same_mapping_iff {as bs : List (Value × Value)} :
    (mapping as).same (mapping bs) = true ↔ as.length = bs.length ∧
      ∀ e ∈ as, ∃ e', entryAt? bs e.1 = some e' ∧ e.2.same e'.2 = true := by
  rw [same, Bool.and_eq_true, beq_iff_eq, entriesIn_iff]

section

variable {as bs : List (Value × Value)}

/-- Of two entries in a mapping with distinct keys whose keys are the same either way, there is only
one. -/
theorem eq_of_same_keys (hapart : as.Pairwise fun a b => a.1.same b.1 = false)
    {e e' : Value × Value} (he : e ∈ as) (he' : e' ∈ as) (h : e.1.same e'.1 = true)
    (h' : e'.1.same e.1 = true) : e = e' := by
  by_contra hne
  have hdiffer : as.Pairwise fun a b => ¬(a.1.same b.1 = true ∧ b.1.same a.1 = true) :=
    hapart.imp fun hab => by simp [hab]
  have : Std.Symm fun a b : Value × Value => ¬(a.1.same b.1 = true ∧ b.1.same a.1 = true) :=
    ⟨fun _ _ hab hba => hab hba.symm⟩
  exact hdiffer.forall he he' hne ⟨h, h'⟩

/-- Keys that are the same find the same entry. -/
theorem entryAt?_congr {k k' : Value} (hk : k.Regular) (h : k.same k' = true)
    (entries : List (Value × Value)) : entryAt? entries k = entryAt? entries k' :=
  List.find?_congr fun e _ => hk.congr k' e.1 h

variable (hapart : as.Pairwise fun a b => a.1.same b.1 = false)
  (hkeys : ∀ e ∈ as, e.1.Regular)
include hapart hkeys

/-- An entry is found by its own key. -/
theorem entryAt?_self {e : Value × Value} (he : e ∈ as) : entryAt? as e.1 = some e := by
  have hsome : (entryAt? as e.1).isSome := List.find?_isSome.mpr ⟨e, he, (hkeys e he).refl⟩
  obtain ⟨e', he'⟩ := Option.isSome_iff_exists.mp hsome
  obtain ⟨hmem, hsame⟩ := same_of_entryAt? he'
  have hback : e'.1.same e.1 = true := by
    rw [← (hkeys e he).congr _ _ hsame]
    exact (hkeys e he).refl
  rw [he', eq_of_same_keys hapart he hmem hsame hback]

/-- Different entries find different ones: two keys that find the same entry compare alike. -/
theorem eq_of_entryAt?_eq {x y e : Value × Value} (hx : x ∈ as) (hy : y ∈ as)
    (hxe : entryAt? bs x.1 = some e) (hye : entryAt? bs y.1 = some e) : x = y := by
  have hcompare : ∀ c, x.1.same c = y.1.same c := fun c =>
    ((hkeys x hx).congr _ c (same_of_entryAt? hxe).2).trans
      ((hkeys y hy).congr _ c (same_of_entryAt? hye).2).symm
  refine eq_of_same_keys hapart hx hy ?_ ?_
  · rw [hcompare]
    exact (hkeys y hy).refl
  · rw [← hcompare]
    exact (hkeys x hx).refl

/-- Mappings of equal length whose entries are all found in the other have all entries of the other
found: different entries find different ones, so none is left over. -/
theorem exists_of_mem_of_entryAt? (hlength : as.length = bs.length)
    (hfind : ∀ e ∈ as, ∃ e', entryAt? bs e.1 = some e') {e' : Value × Value} (he' : e' ∈ bs) :
    ∃ e ∈ as, entryAt? bs e.1 = some e' := by
  have hnodup : as.Nodup := hapart.imp_of_mem fun {a b} ha _ hab heq => by
    rw [← heq, (hkeys a ha).refl] at hab
    cases hab
  have hvalue : ∀ e ∈ as, entryAt? bs e.1 = some ((entryAt? bs e.1).getD e) := fun e he => by
    obtain ⟨e', he'⟩ := hfind e he
    rw [he', Option.getD_some]
  have hinjective : ∀ x ∈ as, ∀ y ∈ as,
      (entryAt? bs x.1).getD x = (entryAt? bs y.1).getD y → x = y := fun x hx y hy heq =>
    eq_of_entryAt?_eq hapart hkeys hx hy (hvalue x hx) (heq ▸ hvalue y hy)
  have hsubset : as.map (fun e => (entryAt? bs e.1).getD e) ⊆ bs := by
    intro e' he'
    obtain ⟨e, he, rfl⟩ := List.mem_map.mp he'
    exact (same_of_entryAt? (hvalue e he)).1
  have hperm : (as.map fun e => (entryAt? bs e.1).getD e).Perm bs :=
    (List.subperm_of_subset (hnodup.map_on hinjective) hsubset).perm_of_length_le
      (by simp [hlength])
  obtain ⟨e, he, rfl⟩ := List.mem_map.mp (hperm.mem_iff.mpr he')
  exact ⟨e, he, hvalue e he⟩

theorem same_mapping_self (hvalues : ∀ e ∈ as, e.2.Regular) :
    (mapping as).same (mapping as) = true :=
  same_mapping_iff.mpr ⟨rfl, fun e he => ⟨e, entryAt?_self hapart hkeys he, (hvalues e he).refl⟩⟩

/-- Mappings that are the same compare alike. -/
theorem same_mapping_congr (hvalues : ∀ e ∈ as, e.2.Regular)
    (hab : (mapping as).same (mapping bs) = true) (cs : List (Value × Value)) :
    (mapping as).same (mapping cs) = (mapping bs).same (mapping cs) := by
  obtain ⟨hlength, hfind⟩ := same_mapping_iff.mp hab
  -- partners of an entry have keys that find the same and values that compare alike
  have hpartner : ∀ e ∈ as, ∀ e', entryAt? bs e.1 = some e' → e.2.same e'.2 = true →
      ((∃ f, entryAt? cs e.1 = some f ∧ e.2.same f.2 = true) ↔
        ∃ f, entryAt? cs e'.1 = some f ∧ e'.2.same f.2 = true) := by
    intro e he e' he' hsame
    rw [entryAt?_congr (hkeys e he) (same_of_entryAt? he').2]
    simp only [(hvalues e he).congr _ _ hsame]
  rw [Bool.eq_iff_iff, same_mapping_iff, same_mapping_iff, hlength]
  refine and_congr_right fun _ => ⟨fun h e' he' => ?_, fun h e he => ?_⟩
  · obtain ⟨e, he, hfound⟩ := exists_of_mem_of_entryAt? hapart hkeys hlength
      (fun e he => (hfind e he).imp fun _ h => h.1) he'
    obtain ⟨e'', hfound', hsame⟩ := hfind e he
    obtain rfl := Option.some.inj (hfound.symm.trans hfound')
    exact (hpartner e he _ hfound hsame).mp (h e he)
  · obtain ⟨e', hfound, hsame⟩ := hfind e he
    exact (hpartner e he e' hfound hsame).mpr (h e' (same_of_entryAt? hfound).1)

end

/-! ## Sameness is an equivalence -/

/-- **A value with distinct keys is regular**, by induction on the value. -/
theorem DistinctKeys.regular {a : Value} (h : a.DistinctKeys) : a.Regular := by
  induction h with
  | null =>
    refine ⟨by rw [same], fun b c hab => ?_⟩
    cases b <;> simp [same] at hab ⊢
  | bool x =>
    refine ⟨by simp [same], fun b c hab => ?_⟩
    cases b <;> simp [same] at hab ⊢
    rw [hab]
  | int n =>
    refine ⟨by simp [same], fun b c hab => ?_⟩
    cases b <;> simp [same] at hab ⊢
    rw [hab]
  | float bits =>
    refine ⟨by rw [same, sameBits_self], fun b c hab => ?_⟩
    cases b <;> simp [same] at hab ⊢
    cases c <;> simp [same, sameBits_congr hab]
  | string s =>
    refine ⟨by simp [same], fun b c hab => ?_⟩
    cases b <;> simp [same] at hab ⊢
    rw [hab]
  | sequence _ ih =>
    refine ⟨by rw [same, sameItems_self ih], fun b c hab => ?_⟩
    cases b <;> simp [same] at hab ⊢
    cases c <;> simp [same, sameItems_congr ih hab]
  | mapping apart _ _ keys values =>
    refine ⟨same_mapping_self apart keys values, fun b c hab => ?_⟩
    cases b with
    | mapping bs =>
      cases c with
      | mapping cs => exact same_mapping_congr apart keys values hab cs
      | _ => simp [same]
    | _ => simp [same] at hab
  | tagged tag _ ih =>
    refine ⟨by simp [same, ih.refl], fun b c hab => ?_⟩
    cases b <;> simp [same] at hab ⊢
    cases c <;> simp [same, hab.1, ih.congr _ _ hab.2]

/-- **Sameness is symmetric** where keys are distinct. -/
theorem same_symm {a b : Value} (ha : a.DistinctKeys) (h : a.same b = true) : b.same a = true := by
  rw [← ha.regular.congr b a h]
  exact ha.regular.refl

/-- **Sameness is transitive** where keys are distinct. -/
theorem same_trans {a b c : Value} (ha : a.DistinctKeys) (hab : a.same b = true)
    (hbc : b.same c = true) : a.same c = true := by
  rw [ha.regular.congr b c hab]
  exact hbc

end Value

end RuleDelta.Yaml

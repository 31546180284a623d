import Mathlib.Logic.Function.Basic
import RuleDelta.Json
import RuleDelta.Proofs.Text.Numeral

/-!
# JSON texts are unambiguous

The form of a value on one line can be told from that of any other value, also with more text behind
it, as long as that text does not go on with digits where a number ends.

* `Unambiguous` says so of a way to write things; `unambiguous_compact` proves it for values, by the
  nesting of them;
* `compact_injective` and `newline_not_mem_compact` are what follows for a file with a value on each
  line;
* `JsonWriter.Lawful` are the laws of a writer of values on one line, and `lawful_jsonWriter` proves
  them for this form.
-/

namespace RuleDelta

open Text

namespace JsonValue

/-- The text does not start with a digit. -/
def EndsNumber (s : List Char) : Prop :=
  ∀ c ∈ s.head?, c.isDigit = false

theorem endsNumber_cons {c : Char} (h : c.isDigit = false) (s : List Char) :
    EndsNumber (c :: s) := by
  rintro _ ⟨⟩
  exact h

/-- What `write` makes of `a` can be told from what it makes of anything else, and from the text
behind it. -/
def Unambiguous {α : Type} (write : α → List Char) (a : α) : Prop :=
  ∀ b r s, EndsNumber r → EndsNumber s → write a ++ r = write b ++ s → a = b ∧ r = s

/-! ## Texts in quotes -/

/-- The characters with a letter of their own behind a backslash, and these letters. -/
def letters : List (Char × Char) :=
  [('"', '"'), ('\\', '\\'), ('\x08', 'b'), ('\x0c', 'f'), ('\n', 'n'), ('\r', 'r'), ('\t', 't')]

theorem mem_letters {c l : Char} (h : escapeLetter? c = some l) : (c, l) ∈ letters := by
  obtain ⟨_, _, hsplit, -⟩ := List.lookup_eq_some_iff.mp h
  rw [letters, hsplit]
  simp

/-- A character in quotes: behind a backslash as a letter or as a number, or as it is. -/
theorem quotedChar_cases (c : Char) :
    (∃ l, (c, l) ∈ letters ∧ quotedChar c = ['\\', l]) ∨
    (c.toNat < 0x20 ∧ quotedChar c =
      ['\\', 'u', '0', '0', Nat.digitChar (c.toNat / 16), Nat.digitChar (c.toNat % 16)]) ∨
    (c ≠ '"' ∧ c ≠ '\\' ∧ c ≠ '\n' ∧ quotedChar c = [c]) := by
  unfold quotedChar
  cases hletter : escapeLetter? c with
  | some l => exact .inl ⟨l, mem_letters hletter, rfl⟩
  | none =>
    by_cases hlow : c.toNat < 0x20
    · exact .inr (.inl ⟨hlow, by simp [hlow]⟩)
    · refine .inr (.inr ⟨?_, ?_, ?_, by simp [hlow]⟩)
      all_goals
        rintro rfl
        exact absurd hletter (by decide)

theorem eq_of_mem_letters {c d l : Char} (hc : (c, l) ∈ letters) (hd : (d, l) ∈ letters) :
    c = d := by
  have hinj : ∀ p ∈ letters, ∀ q ∈ letters, p.2 = q.2 → p.1 = q.1 := by decide
  exact hinj (c, l) hc (d, l) hd rfl

theorem u_not_letter (c : Char) : (c, 'u') ∉ letters := by
  have hletters : ∀ p ∈ letters, p.2 ≠ 'u' := by decide
  exact fun hmem => hletters _ hmem rfl

theorem digitChar_inj : ∀ a < 16, ∀ b < 16, Nat.digitChar a = Nat.digitChar b → a = b := by
  decide

theorem unambiguous_quotedChar {c d : Char} {r s : List Char}
    (h : quotedChar c ++ r = quotedChar d ++ s) : c = d ∧ r = s := by
  rcases quotedChar_cases c with ⟨l, hl, hc⟩ | ⟨hlow, hc⟩ | ⟨-, hslash, -, hc⟩ <;>
    rcases quotedChar_cases d with ⟨l', hl', hd⟩ | ⟨hlow', hd⟩ | ⟨-, hslash', -, hd⟩ <;>
    rw [hc, hd] at h <;>
    simp only [List.cons_append, List.nil_append, List.cons.injEq, true_and] at h
  · obtain ⟨rfl, rfl⟩ := h
    exact ⟨eq_of_mem_letters hl hl', rfl⟩
  · obtain ⟨rfl, -⟩ := h
    exact absurd hl (u_not_letter c)
  · exact absurd h.1.symm hslash'
  · obtain ⟨rfl, -⟩ := h
    exact absurd hl' (u_not_letter d)
  · obtain ⟨hhigh, hdigit, rfl⟩ := h
    have hdiv := digitChar_inj _ (by omega) _ (by omega) hhigh
    have hmod := digitChar_inj _ (by omega) _ (by omega) hdigit
    exact ⟨Char.toNat_inj.mp (by omega), rfl⟩
  · exact absurd h.1.symm hslash'
  · exact absurd h.1 hslash
  · exact absurd h.1 hslash
  · exact h

theorem quotedChar_head (c : Char) : ∃ d rest, quotedChar c = d :: rest ∧ d ≠ '"' := by
  rcases quotedChar_cases c with ⟨l, -, hc⟩ | ⟨-, hc⟩ | ⟨hquote, -, -, hc⟩
  · exact ⟨_, _, hc, by decide⟩
  · exact ⟨_, _, hc, by decide⟩
  · exact ⟨_, _, hc, hquote⟩

/-- A text in quotes ends at the first quote that is not behind a backslash: the induction is on the
characters. -/
theorem eq_of_flatMap_quotedChar {s t : List Char} {r r' : List Char}
    (h : s.flatMap quotedChar ++ '"' :: r = t.flatMap quotedChar ++ '"' :: r') :
    s = t ∧ r = r' := by
  induction s generalizing t with
  | nil =>
    cases t with
    | nil => simpa using h
    | cons d t =>
      obtain ⟨e, rest, hd, hquote⟩ := quotedChar_head d
      rw [List.flatMap_cons, hd] at h
      exact absurd (List.cons.inj h).1.symm hquote
  | cons c s ih =>
    cases t with
    | nil =>
      obtain ⟨e, rest, hc, hquote⟩ := quotedChar_head c
      rw [List.flatMap_cons, hc] at h
      exact absurd (List.cons.inj h).1 hquote
    | cons d t =>
      rw [List.flatMap_cons, List.flatMap_cons, List.append_assoc, List.append_assoc] at h
      obtain ⟨rfl, hrest⟩ := unambiguous_quotedChar h
      obtain ⟨rfl, hbehind⟩ := ih hrest
      exact ⟨rfl, hbehind⟩

theorem quoted_append (s : String) (r : List Char) :
    quoted s ++ r = '"' :: (s.toList.flatMap quotedChar ++ '"' :: r) := by
  simp [quoted]

theorem eq_of_quoted_append {s t : String} {r r' : List Char}
    (h : quoted s ++ r = quoted t ++ r') : s = t ∧ r = r' := by
  rw [quoted_append, quoted_append] at h
  obtain ⟨hchars, hrest⟩ := eq_of_flatMap_quotedChar (List.cons.inj h).2
  exact ⟨String.toList_inj.mp hchars, hrest⟩

/-! ## Numbers -/

theorem toDigits_injective {m n : Nat} (h : Nat.toDigits 10 m = Nat.toDigits 10 n) : m = n :=
  Option.some.inj (digits?_toDigits m ▸ h ▸ digits?_toDigits n)

theorem takeWhile_decimal (n : Nat) {r : List Char} (hr : EndsNumber r) :
    (decimal n ++ r).takeWhile Char.isDigit = decimal n := by
  have hdigits : ∀ c ∈ decimal n, c.isDigit = true := fun c hc =>
    Nat.isDigit_of_mem_toDigits (by decide) (by decide) hc
  rw [List.takeWhile_append_of_pos hdigits]
  cases r with
  | nil => simp
  | cons c r => simp [hr c rfl]

theorem unambiguous_decimal (n : Nat) : Unambiguous decimal n := by
  intro m r s hr hs h
  have hdigits : decimal n = decimal m := by
    rw [← takeWhile_decimal n hr, h, takeWhile_decimal m hs]
  obtain rfl := toDigits_injective hdigits
  exact ⟨rfl, List.append_cancel_left h⟩

/-! ## Items -/

/-- The items behind the first, with a comma in front of each. -/
theorem separated_cons (item : List Char) (items : List (List Char)) :
    separated [','] (item :: items) = item ++ items.flatMap (',' :: ·) := by
  induction items generalizing item with
  | nil => simp [separated]
  | cons next items ih => simp [separated, ih]

section Items

variable {α : Type} {write : α → List Char} {close : Char} {as bs : List α} {r s : List Char}

/-- Further items end at the bracket: the induction is on the items. -/
theorem eq_of_further_items (hclose : close.isDigit = false) (hcomma : close ≠ ',')
    (h : ∀ a ∈ as, Unambiguous write a)
    (heq : (as.map write).flatMap (',' :: ·) ++ close :: r =
      (bs.map write).flatMap (',' :: ·) ++ close :: s) : as = bs ∧ r = s := by
  have hends : ∀ (cs : List α) (t : List Char),
      EndsNumber ((cs.map write).flatMap (',' :: ·) ++ close :: t) := by
    intro cs t
    cases cs with
    | nil => exact endsNumber_cons hclose t
    | cons c cs => exact endsNumber_cons (by decide) _
  induction as generalizing bs with
  | nil =>
    cases bs with
    | nil => simpa using heq
    | cons b bs => exact absurd (List.cons.inj heq).1 hcomma
  | cons a as ih =>
    obtain ⟨ha, has⟩ := List.forall_mem_cons.mp h
    cases bs with
    | nil => exact absurd (List.cons.inj heq).1.symm hcomma
    | cons b bs =>
      simp only [List.map_cons, List.flatMap_cons, List.cons_append, List.append_assoc,
        List.cons.injEq, true_and] at heq
      obtain ⟨rfl, hrest⟩ := ha b _ _ (hends as r) (hends bs s) heq
      obtain ⟨rfl, hbehind⟩ := ih has hrest
      exact ⟨rfl, hbehind⟩

/-- Items between brackets can be told apart if each of them can, and if none starts with the
bracket. -/
theorem eq_of_separated (hclose : close.isDigit = false) (hcomma : close ≠ ',')
    (hstart : ∀ a, (write a).head?.any (· ≠ close)) (h : ∀ a ∈ as, Unambiguous write a)
    (heq : separated [','] (as.map write) ++ close :: r =
      separated [','] (bs.map write) ++ close :: s) : as = bs ∧ r = s := by
  have hhead : ∀ a t t', write a ++ t ≠ close :: t' := by
    intro a t t' hwrite
    have ha := hstart a
    cases hw : write a with
    | nil => simp [hw] at ha
    | cons c rest =>
      rw [hw] at hwrite
      simp [hw, (List.cons.inj hwrite).1] at ha
  cases as with
  | nil =>
    cases bs with
    | nil => simpa [separated] using heq
    | cons b bs =>
      rw [List.map_cons, separated_cons, List.append_assoc] at heq
      exact absurd heq.symm (hhead b _ _)
  | cons a as =>
    cases bs with
    | nil =>
      rw [List.map_cons, separated_cons, List.append_assoc] at heq
      exact absurd heq (hhead a _ _)
    | cons b bs =>
      -- with a comma in front of each side both are further items
      rw [List.map_cons, separated_cons, List.map_cons, separated_cons] at heq
      refine eq_of_further_items hclose hcomma h ?_
      simpa using heq

end Items

/-! ## Values -/

/-- The written form of a field. -/
def compactField (field : String × JsonValue) : List Char :=
  quoted field.1 ++ ':' :: field.2.compact

theorem compactItems_eq_map (items : List JsonValue) : compactItems items = items.map compact := by
  induction items with
  | nil => rw [compactItems, List.map_nil]
  | cons item items ih => rw [compactItems, List.map_cons, ih]

theorem compactFields_eq_map (fields : List (String × JsonValue)) :
    compactFields fields = fields.map compactField := by
  induction fields with
  | nil => rw [compactFields, List.map_nil]
  | cons field fields ih => rw [compactFields, List.map_cons, ih, compactField]

theorem compact_array (items : List JsonValue) (r : List Char) :
    (array items).compact ++ r = '[' :: (separated [','] (items.map compact) ++ ']' :: r) := by
  simp [compact, compactItems_eq_map]

theorem compact_object (fields : List (String × JsonValue)) (r : List Char) :
    (object fields).compact ++ r =
      '\x7b' :: (separated [','] (fields.map compactField) ++ '\x7d' :: r) := by
  simp [compact, compactFields_eq_map]

/-- The characters that values of each kind start with. -/
def Starts : JsonValue → Char → Prop
  | string _, c => c = '"'
  | number _, c => c.isDigit = true
  | array _, c => c = '['
  | object _, c => c = '\x7b'

theorem exists_compact_eq_cons (v : JsonValue) : ∃ c rest, v.compact = c :: rest ∧ v.Starts c := by
  cases v with
  | string s => exact ⟨_, _, by rw [compact, quoted]; rfl, rfl⟩
  | number n =>
    obtain ⟨c, rest, hdigits⟩ := List.exists_cons_of_ne_nil (Nat.toDigits_ne_nil (n := n) (b := 10))
    refine ⟨c, rest, by rw [compact, decimal, hdigits], ?_⟩
    exact Nat.isDigit_of_mem_toDigits (b := 10) (n := n) (by decide) (by decide) (by simp [hdigits])
  | array items => exact ⟨_, _, by rw [compact]; rfl, rfl⟩
  | object fields => exact ⟨_, _, by rw [compact]; rfl, rfl⟩

/-- Values with the same text are of the same kind. -/
theorem exists_starts {v w : JsonValue} {r s : List Char} (h : v.compact ++ r = w.compact ++ s) :
    ∃ c, v.Starts c ∧ w.Starts c := by
  obtain ⟨c, rest, hv, hc⟩ := exists_compact_eq_cons v
  obtain ⟨d, rest', hw, hd⟩ := exists_compact_eq_cons w
  rw [hv, hw] at h
  exact ⟨c, hc, (List.cons.inj h).1 ▸ hd⟩

theorem compact_head_ne (v : JsonValue) : v.compact.head?.any (· ≠ ']') := by
  obtain ⟨c, rest, hv, hc⟩ := exists_compact_eq_cons v
  rw [hv]
  cases v <;> simp only [Starts] at hc <;> simp <;> rintro rfl <;> exact absurd hc (by decide)

theorem unambiguous_compactField {field : String × JsonValue}
    (h : Unambiguous compact field.2) : Unambiguous compactField field := by
  rintro ⟨key, value⟩ r s hr hs heq
  obtain ⟨fieldKey, fieldValue⟩ := field
  simp only [compactField, List.append_assoc] at heq
  obtain ⟨rfl, hvalue⟩ := eq_of_quoted_append heq
  obtain ⟨rfl, hrest⟩ := h value r s hr hs (List.cons.inj hvalue).2
  exact ⟨rfl, hrest⟩

theorem sizeOf_field_lt {field : String × JsonValue} {fields : List (String × JsonValue)}
    (h : field ∈ fields) : sizeOf field.2 < 1 + sizeOf fields := by
  have hfield := List.sizeOf_lt_of_mem h
  have hvalue : sizeOf field = 1 + sizeOf field.1 + sizeOf field.2 := rfl
  omega

/-- **The text of a value tells where it ends and what it is.** The induction is on the nesting of
values; a value of another kind starts with another character. -/
theorem unambiguous_compact : (v : JsonValue) → Unambiguous compact v
  | string text => by
    intro w r s _ _ h
    obtain ⟨c, hc, hw⟩ := exists_starts h
    cases w with
    | string text' =>
      rw [compact, compact] at h
      obtain ⟨rfl, hrest⟩ := eq_of_quoted_append h
      exact ⟨rfl, hrest⟩
    | number | array | object => simp_all [Starts]
  | number n => by
    intro w r s hr hs h
    obtain ⟨c, hc, hw⟩ := exists_starts h
    cases w with
    | number m =>
      rw [compact, compact] at h
      obtain ⟨rfl, hrest⟩ := unambiguous_decimal n m r s hr hs h
      exact ⟨rfl, hrest⟩
    | string | array | object => simp_all [Starts]
  | array items => by
    intro w r s _ _ h
    obtain ⟨c, hc, hw⟩ := exists_starts h
    cases w with
    | array items' =>
      rw [compact_array, compact_array] at h
      obtain ⟨rfl, hrest⟩ := eq_of_separated (by decide) (by decide) compact_head_ne
        (fun item _ => unambiguous_compact item) (List.cons.inj h).2
      exact ⟨rfl, hrest⟩
    | string | number | object => simp_all [Starts]
  | object fields => by
    intro w r s _ _ h
    obtain ⟨c, hc, hw⟩ := exists_starts h
    cases w with
    | object fields' =>
      rw [compact_object, compact_object] at h
      obtain ⟨rfl, hrest⟩ := eq_of_separated (by decide) (by decide)
        (fun field => by simp [compactField, quoted])
        (fun field hfield =>
          have := sizeOf_field_lt hfield
          unambiguous_compactField (unambiguous_compact field.2))
        (List.cons.inj h).2
      exact ⟨rfl, hrest⟩
    | string | number | array => simp_all [Starts]

/-- Different values have different texts. -/
theorem compact_injective {v w : JsonValue} (h : v.compact = w.compact) : v = w := by
  refine (unambiguous_compact v w [] [] ?_ ?_ (by rw [h])).1 <;> simp [EndsNumber]

/-! ## One line -/

theorem newline_not_mem_quotedChar (c : Char) : '\n' ∉ quotedChar c := by
  have hletters : ∀ p ∈ letters, p.2 ≠ '\n' := by decide
  have hdigits : ∀ d < 16, Nat.digitChar d ≠ '\n' := by decide
  rcases quotedChar_cases c with ⟨l, hl, hc⟩ | ⟨hlow, hc⟩ | ⟨-, -, hfeed, hc⟩
  · simp [hc, (hletters _ hl).symm]
  · simp [hc, (hdigits (c.toNat / 16) (by omega)).symm, (hdigits (c.toNat % 16) (by omega)).symm]
  · simp [hc, hfeed.symm]

theorem newline_not_mem_quoted (s : String) : '\n' ∉ quoted s := by
  simp [quoted, newline_not_mem_quotedChar]

theorem newline_not_mem_separated {items : List (List Char)} (h : ∀ item ∈ items, '\n' ∉ item) :
    '\n' ∉ separated [','] items := by
  cases items with
  | nil => simp [separated]
  | cons item items =>
    obtain ⟨hitem, hitems⟩ := List.forall_mem_cons.mp h
    rw [separated_cons]
    simpa [hitem] using hitems

/-- **A value is written on one line**: line feeds in its texts are behind backslashes. -/
theorem newline_not_mem_compact : (v : JsonValue) → '\n' ∉ v.compact
  | string s => by
    rw [compact]
    exact newline_not_mem_quoted s
  | number n => by
    rw [compact]
    exact not_mem_toDigits (by decide) n
  | array items => by
    have hitems : '\n' ∉ separated [','] (items.map compact) := newline_not_mem_separated
      (List.forall_mem_map.mpr fun item _ => newline_not_mem_compact item)
    rw [compact, compactItems_eq_map]
    simpa using hitems
  | object fields => by
    have hfields : '\n' ∉ separated [','] (fields.map compactField) := newline_not_mem_separated
      (List.forall_mem_map.mpr fun field hfield => by
        have := sizeOf_field_lt hfield
        have hvalue := newline_not_mem_compact field.2
        simpa [compactField, newline_not_mem_quoted] using hvalue)
    rw [compact, compactFields_eq_map]
    simpa using hfields

/-! ## Writers -/

/-- The keys of the objects in a value ascend and are distinct, as they are in a sorted map. -/
inductive Ascending : JsonValue → Prop
  | string (s : String) : Ascending (string s)
  | number (n : Nat) : Ascending (number n)
  | array {items : List JsonValue} (h : ∀ item ∈ items, Ascending item) : Ascending (array items)
  | object {fields : List (String × JsonValue)} (hsorted : fields.Pairwise fun f g => f.1 ≤ g.1)
      (hnodup : (fields.map Prod.fst).Nodup) (h : ∀ f ∈ fields, Ascending f.2) : Ascending (object fields)

end JsonValue

/-- The laws of a writer of values on one line. -/
structure JsonWriter.Lawful (write : JsonWriter) : Prop where
  /-- A value is written, -/
  exists_write {v : JsonValue} (h : v.Ascending) : ∃ line, write v = .ok line
  /-- on one line, -/
  newline_not_mem {v : JsonValue} {line : List Char} (h : v.Ascending) (hwrite : write v = .ok line) :
    '\n' ∉ line
  /-- and it is read back. -/
  exists_read : ∃ read : List Char → Option JsonValue,
    ∀ v line, v.Ascending → write v = .ok line → read line = some v

/-- Two values are not written alike. -/
theorem JsonWriter.Lawful.inj {write : JsonWriter} (hwrite : write.Lawful) {v v' : JsonValue}
    (h : v.Ascending) (h' : v'.Ascending) (heq : write v = write v') : v = v' := by
  obtain ⟨line, hline⟩ := hwrite.exists_write h
  obtain ⟨read, hread⟩ := hwrite.exists_read
  have hvalue : some v = some v' :=
    (hread v line h hline).symm.trans (hread v' line h' (heq ▸ hline))
  exact Option.some.inj hvalue

/-- **The form on one line** is one that a writer may use. -/
theorem lawful_jsonWriter : jsonWriter.Lawful where
  exists_write _ := ⟨_, rfl⟩
  newline_not_mem := by
    rintro v _ - ⟨⟩
    exact v.newline_not_mem_compact
  exists_read := by
    refine ⟨Function.partialInv JsonValue.compact, ?_⟩
    rintro v _ - ⟨⟩
    have hinj : Function.Injective JsonValue.compact := fun _ _ => JsonValue.compact_injective
    exact Function.partialInv_left hinj v

end RuleDelta

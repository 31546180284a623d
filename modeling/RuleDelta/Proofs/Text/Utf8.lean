import Mathlib.Tactic.SplitIfs
import RuleDelta.Text.Utf8

/-!
# Texts and their bytes

* The UTF-8 form of a text is cut into its characters again (`chunks_encode`), so it is decoded as
  that text, with and without tolerance for faults.
* A number of bytes can be dropped from a text unless they end inside of one of its characters
  (`dropBytes?_eq_none_iff`).
-/

namespace RuleDelta.Text.Utf8

/-! ## Chunks of several bytes -/

section

variable {a b c d : UInt8} {l : Lead}

theorem chunks_cons_one (h : a < 0x80) (rest : List UInt8) :
    chunks (a :: rest) = .char (ofBits a.toNat) :: chunks rest := by
  rw [chunks.eq_def]
  simp [h]

theorem chunks_cons_two (ha : ¬a < 0x80) (hl : lead? a = some l) (htails : l.tails = 1)
    (hb : l.low ≤ b ∧ b ≤ l.high) (rest : List UInt8) :
    chunks (a :: b :: rest) =
      .char (ofBits (a.toNat % 0x20 * 0x40 + tailBits b)) :: chunks rest := by
  rw [chunks.eq_def]
  simp [ha, hl, hb, htails]

theorem chunks_cons_three (ha : ¬a < 0x80) (hl : lead? a = some l) (htails : l.tails = 2)
    (hb : l.low ≤ b ∧ b ≤ l.high) (hc : isTail c = true) (rest : List UInt8) :
    chunks (a :: b :: c :: rest) =
      .char (ofBits (a.toNat % 0x10 * 0x1000 + tailBits b * 0x40 + tailBits c)) ::
        chunks rest := by
  rw [chunks.eq_def]
  simp [ha, hl, hb, htails, hc]

theorem chunks_cons_four (ha : ¬a < 0x80) (hl : lead? a = some l) (htails : l.tails = 3)
    (hb : l.low ≤ b ∧ b ≤ l.high) (hc : isTail c = true) (hd : isTail d = true)
    (rest : List UInt8) :
    chunks (a :: b :: c :: d :: rest) =
      .char (ofBits (a.toNat % 0x08 * 0x40000 + tailBits b * 0x1000 + tailBits c * 0x40 +
        tailBits d)) :: chunks rest := by
  rw [chunks.eq_def]
  simp [ha, hl, hb, htails, hc, hd]

/-- The first byte of a character of two bytes. -/
theorem exists_lead_two (ha : 0xC2 ≤ a.toNat ∧ a.toNat ≤ 0xDF)
    (hb : 0x80 ≤ b.toNat ∧ b.toNat ≤ 0xBF) :
    ∃ l, lead? a = some l ∧ l.tails = 1 ∧ l.low ≤ b ∧ b ≤ l.high := by
  simp only [lead?, Bool.and_eq_true, decide_eq_true_eq, beq_iff_eq, UInt8.le_iff_toNat_le,
    ← UInt8.toNat_inj, UInt8.reduceToNat]
  exact ⟨_, if_pos ha, rfl, by simp; omega⟩

/-- The first byte of a character of three bytes, with the bounds that it sets for the second. -/
theorem exists_lead_three (ha : 0xE0 ≤ a.toNat ∧ a.toNat ≤ 0xEF)
    (hb : 0x80 ≤ b.toNat ∧ b.toNat ≤ 0xBF) (hlow : a.toNat = 0xE0 → 0xA0 ≤ b.toNat)
    (hhigh : a.toNat = 0xED → b.toNat ≤ 0x9F) :
    ∃ l, lead? a = some l ∧ l.tails = 2 ∧ l.low ≤ b ∧ b ≤ l.high := by
  simp only [lead?, Bool.and_eq_true, decide_eq_true_eq, beq_iff_eq, UInt8.le_iff_toNat_le,
    ← UInt8.toNat_inj, UInt8.reduceToNat]
  split_ifs <;> first | omega | exact ⟨_, rfl, rfl, by simp; omega⟩

/-- The first byte of a character of four bytes, with the bounds that it sets for the second. -/
theorem exists_lead_four (ha : 0xF0 ≤ a.toNat ∧ a.toNat ≤ 0xF4)
    (hb : 0x80 ≤ b.toNat ∧ b.toNat ≤ 0xBF) (hlow : a.toNat = 0xF0 → 0x90 ≤ b.toNat)
    (hhigh : a.toNat = 0xF4 → b.toNat ≤ 0x8F) :
    ∃ l, lead? a = some l ∧ l.tails = 3 ∧ l.low ≤ b ∧ b ≤ l.high := by
  simp only [lead?, Bool.and_eq_true, decide_eq_true_eq, beq_iff_eq, UInt8.le_iff_toNat_le,
    ← UInt8.toNat_inj, UInt8.reduceToNat]
  split_ifs <;> first | omega | exact ⟨_, rfl, rfl, by simp; omega⟩

end

/-! ## The bytes of a character -/

theorem toNat_ofNat {n : Nat} (h : n < 256) : (UInt8.ofNat n).toNat = n :=
  UInt8.toNat_ofNat_of_lt' h

/-- The byte that holds six bits of a number. -/
theorem toNat_tail (n : Nat) : (UInt8.ofNat (n % 64 + 128)).toNat = n % 64 + 128 :=
  toNat_ofNat (by omega)

theorem isTail_tail (n : Nat) : isTail (UInt8.ofNat (n % 64 + 128)) = true := by
  simp only [isTail, Bool.and_eq_true, decide_eq_true_eq, UInt8.le_iff_toNat_le, toNat_tail,
    UInt8.reduceToNat]
  omega

theorem tailBits_tail (n : Nat) : tailBits (UInt8.ofNat (n % 64 + 128)) = n % 64 := by
  rw [tailBits, toNat_tail]
  omega

theorem ofBits_toNat (c : Char) : ofBits c.toNat = c :=
  Char.ofNat_toNat c

theorem encodeChar_ascii {c : Char} (h : c.toNat < 0x80) :
    String.utf8EncodeChar c = [UInt8.ofNat c.toNat] := by
  have hval : c.val.toNat = c.toNat := rfl
  rw [String.utf8EncodeChar]
  simp only [hval]
  rw [if_pos (by omega)]

/-- The bytes of a character behind ASCII are no ASCII. -/
theorem le_of_mem_encodeChar {c : Char} (h : 0x80 ≤ c.toNat) :
    ∀ b ∈ String.utf8EncodeChar c, 0x80 ≤ b.toNat := by
  have hvalid : c.toNat < 0xD800 ∨ 0xDFFF < c.toNat ∧ c.toNat < 0x110000 := c.valid
  have hval : c.val.toNat = c.toNat := rfl
  rw [String.utf8EncodeChar]
  simp only [hval]
  split_ifs <;> simp <;> omega

/-- **The bytes of a character are one chunk.** The cases are the numbers of bytes. -/
theorem chunks_encodeChar (c : Char) (rest : List UInt8) :
    chunks (String.utf8EncodeChar c ++ rest) = .char c :: chunks rest := by
  have hvalid : c.toNat < 0xD800 ∨ 0xDFFF < c.toNat ∧ c.toNat < 0x110000 := c.valid
  have hnot : ∀ {b : UInt8}, 0x80 ≤ b.toNat → ¬b < 0x80 := fun h => by
    rw [UInt8.lt_iff_toNat_lt]
    exact Nat.not_lt.mpr h
  have hval : c.val.toNat = c.toNat := rfl
  rw [String.utf8EncodeChar]
  simp only [hval]
  split_ifs with h₁ h₂ h₃
  · have ha := toNat_ofNat (n := c.toNat) (by omega)
    have hlt : UInt8.ofNat c.toNat < 0x80 := by
      rw [UInt8.lt_iff_toNat_lt, ha]
      exact Nat.lt_succ_of_le h₁
    rw [List.cons_append, List.nil_append, chunks_cons_one hlt, ha, ofBits_toNat]
  · have ha := toNat_ofNat (n := c.toNat / 64 % 32 + 192) (by omega)
    have hb := toNat_tail c.toNat
    obtain ⟨l, hl, htails, hbounds⟩ := exists_lead_two (a := UInt8.ofNat (c.toNat / 64 % 32 + 192))
      (b := UInt8.ofNat (c.toNat % 64 + 128)) (by omega) (by omega)
    have hbits : (c.toNat / 64 % 32 + 192) % 0x20 * 0x40 + c.toNat % 64 = c.toNat := by omega
    rw [List.cons_append, List.cons_append, List.nil_append,
      chunks_cons_two (hnot (by omega)) hl htails hbounds, ha, tailBits_tail, hbits, ofBits_toNat]
  · have ha := toNat_ofNat (n := c.toNat / 4096 % 16 + 224) (by omega)
    have hb := toNat_tail (c.toNat / 64)
    obtain ⟨l, hl, htails, hbounds⟩ := exists_lead_three
      (a := UInt8.ofNat (c.toNat / 4096 % 16 + 224))
      (b := UInt8.ofNat (c.toNat / 64 % 64 + 128)) (by omega) (by omega) (by omega) (by omega)
    have hbits : (c.toNat / 4096 % 16 + 224) % 0x10 * 0x1000 + c.toNat / 64 % 64 * 0x40 +
        c.toNat % 64 = c.toNat := by omega
    rw [List.cons_append, List.cons_append, List.cons_append, List.nil_append,
      chunks_cons_three (hnot (by omega)) hl htails hbounds (isTail_tail _), ha, tailBits_tail,
      tailBits_tail, hbits, ofBits_toNat]
  · have ha := toNat_ofNat (n := c.toNat / 262144 % 8 + 240) (by omega)
    have hb := toNat_tail (c.toNat / 4096)
    obtain ⟨l, hl, htails, hbounds⟩ := exists_lead_four
      (a := UInt8.ofNat (c.toNat / 262144 % 8 + 240))
      (b := UInt8.ofNat (c.toNat / 4096 % 64 + 128)) (by omega) (by omega) (by omega) (by omega)
    have hbits : (c.toNat / 262144 % 8 + 240) % 0x08 * 0x40000 + c.toNat / 4096 % 64 * 0x1000 +
        c.toNat / 64 % 64 * 0x40 + c.toNat % 64 = c.toNat := by omega
    rw [List.cons_append, List.cons_append, List.cons_append, List.cons_append, List.nil_append,
      chunks_cons_four (hnot (by omega)) hl htails hbounds (isTail_tail _) (isTail_tail _), ha,
      tailBits_tail, tailBits_tail, tailBits_tail, hbits, ofBits_toNat]

/-! ## Texts -/

theorem encode_cons (c : Char) (s : List Char) :
    encode (c :: s) = String.utf8EncodeChar c ++ encode s :=
  List.flatMap_cons

theorem encode_singleton (c : Char) : encode [c] = String.utf8EncodeChar c :=
  List.flatMap_singleton _ _

theorem encode_append (s t : List Char) : encode (s ++ t) = encode s ++ encode t :=
  List.flatMap_append

/-- **The bytes of a text are cut into its characters.** -/
theorem chunks_encode (s : List Char) : chunks (encode s) = s.map .char := by
  induction s with
  | nil => exact chunks.eq_1
  | cons c s ih => rw [encode_cons, chunks_encodeChar, ih, List.map_cons]

theorem decodeLossy_encode (s : List Char) : decodeLossy (encode s) = s := by
  rw [decodeLossy, chunks_encode, List.map_map]
  exact List.map_id s

theorem decode_encode (s : List Char) : decode (encode s) = .ok s := by
  have hread : ∀ index, ofChunks index (s.map .char) = .ok s := by
    induction s with
    | nil => exact fun index => rfl
    | cons c s ih =>
      intro index
      rw [List.map_cons, ofChunks, ih]
      rfl
  rw [decode, chunks_encode]
  exact hread 0

/-! ## Cutting a text at a byte -/

/-- A text has a character that starts in front of byte `n` and ends behind it. -/
def SplitAt (n : Nat) (s : List Char) : Prop :=
  ∃ front c back, s = front ++ c :: back ∧ byteLength front < n ∧
    n < byteLength front + c.utf8Size

theorem not_splitAt_zero (s : List Char) : ¬SplitAt 0 s := by
  rintro ⟨front, c, back, -, hlt, -⟩
  exact Nat.not_lt_zero _ hlt

theorem not_splitAt_nil (n : Nat) : ¬SplitAt n [] := by
  rintro ⟨front, c, back, heq, -⟩
  simp at heq

theorem byteLength_append (s t : List Char) :
    byteLength (s ++ t) = byteLength s + byteLength t := by
  induction s with
  | nil => simp [byteLength]
  | cons c s ih => rw [List.cons_append, byteLength, byteLength, ih, Nat.add_assoc]

theorem SplitAt.lt_byteLength {n : Nat} {s : List Char} (h : SplitAt n s) : n < byteLength s := by
  obtain ⟨front, c, back, rfl, -, hgt⟩ := h
  rw [byteLength_append, byteLength]
  omega

/-- A cut falls inside of the first character or inside of a later one. -/
theorem splitAt_cons {n : Nat} (hpos : 0 < n) {c : Char} {s : List Char} :
    SplitAt n (c :: s) ↔ n < c.utf8Size ∨ c.utf8Size < n ∧ SplitAt (n - c.utf8Size) s := by
  constructor
  · rintro ⟨front, d, back, heq, hlt, hgt⟩
    cases front with
    | nil =>
      obtain ⟨rfl, rfl⟩ := List.cons.inj heq
      exact .inl (by simpa [byteLength] using hgt)
    | cons c' front =>
      obtain ⟨rfl, rfl⟩ := List.cons.inj heq
      rw [byteLength] at hlt hgt
      exact .inr ⟨by omega, front, d, back, rfl, by omega, by omega⟩
  · rintro (hlt | ⟨hle, front, d, back, rfl, hlt, hgt⟩)
    · exact ⟨[], c, s, rfl, hpos, by simpa [byteLength] using hlt⟩
    · exact ⟨c :: front, d, back, rfl, by rw [byteLength]; omega, by rw [byteLength]; omega⟩

/-- Bytes can be dropped unless they are too many or end inside of a character. -/
theorem dropBytes?_eq_none_iff {n : Nat} {s : List Char} :
    dropBytes? n s = none ↔ byteLength s < n ∨ SplitAt n s := by
  induction s generalizing n with
  | nil =>
    cases n with
    | zero => simp [dropBytes?, byteLength, not_splitAt_nil]
    | succ n => simp [dropBytes?, byteLength]
  | cons c s ih =>
    cases n with
    | zero => simp [dropBytes?, not_splitAt_zero]
    | succ n =>
      rw [dropBytes?, splitAt_cons (Nat.succ_pos n), byteLength]
      by_cases hle : c.utf8Size ≤ n + 1
      · rw [if_pos hle, ih]
        have hsplit : SplitAt (n + 1 - c.utf8Size) s ↔
            c.utf8Size < n + 1 ∧ SplitAt (n + 1 - c.utf8Size) s := by
          refine ⟨fun h => ⟨?_, h⟩, And.right⟩
          refine Nat.lt_of_not_le fun hge => ?_
          rw [Nat.sub_eq_zero_of_le hge] at h
          exact not_splitAt_zero s h
        rw [← hsplit]
        have hlength : byteLength s < n + 1 - c.utf8Size ↔ c.utf8Size + byteLength s < n + 1 := by
          omega
        have hnot : ¬n + 1 < c.utf8Size := by omega
        simp only [hlength, hnot, false_or]
      · rw [if_neg hle]
        have hlt : n + 1 < c.utf8Size := by omega
        simp [hlt]

/-- Characters of one byte each are dropped one by one. -/
theorem dropBytes?_append {front : List Char} (h : ∀ c ∈ front, c.utf8Size = 1) (s : List Char) :
    dropBytes? front.length (front ++ s) = some s := by
  induction front with
  | nil => simp [dropBytes?]
  | cons c front ih =>
    obtain ⟨hc, hfront⟩ := List.forall_mem_cons.mp h
    simp [dropBytes?, hc, ih hfront]

end RuleDelta.Text.Utf8

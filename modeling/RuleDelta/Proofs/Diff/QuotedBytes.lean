import RuleDelta.Proofs.Diff.Quoting

/-!
# Paths are printed byte by byte

A path is a string of bytes, and whether a byte is escaped does not depend on the bytes around it.
The bytes of a character behind ASCII are all escaped or none of them is, so the printed bytes of a
text are again those of a text, and that is read as the path.

* `escapeByte` is a byte between quotes, and `printedBytes` is a path;
* `printedBytes_encode` says that the printed bytes of a text are those of `printed`, and
  `unquote_printedBytes` that they are read as the text.
-/

namespace RuleDelta.Path

open Text

/-! ## The printed bytes -/

/-- The bytes that are escaped with a letter. -/
def letters : List (UInt8 × Char) :=
  [(0x07, 'a'), (0x08, 'b'), (0x09, 't'), (0x0A, 'n'), (0x0B, 'v'), (0x0C, 'f'), (0x0D, 'r'),
    (0x22, '"'), (0x5C, '\\')]

/-- Whether a byte without a letter is escaped: a control byte is and, if `wide` says so, every
byte from 0x80 on. -/
def isOctalByte (wide : Bool) (b : UInt8) : Bool :=
  b < 0x20 || b == 0x7F || wide && 0x80 ≤ b

/-- A byte between quotes. -/
def escapeByte (wide : Bool) (b : UInt8) : List UInt8 :=
  match letters.lookup b with
  | some letter => Utf8.encode ['\\', letter]
  | none => if isOctalByte wide b then Utf8.encode (octalEscape b) else [b]

/-- Whether a byte calls for quotes around the path. -/
def isQuotedByte (wide : Bool) (b : UInt8) : Bool :=
  (letters.lookup b).isSome || isOctalByte wide b

/-- The bytes of a path as they are printed. -/
def printedBytes (wide : Bool) (path : List UInt8) : List UInt8 :=
  if path.any (isQuotedByte wide) then 0x22 :: path.flatMap (escapeByte wide) ++ [0x22] else path

/-! ## The bytes of a character -/

theorem lookup_ascii : ∀ n < 0x80,
    letters.lookup (UInt8.ofNat n) = escapeLetter? (Char.ofNat n) := by
  decide

theorem lookup_wide {b : UInt8} (h : 0x80 ≤ b.toNat) : letters.lookup b = none := by
  have hascii : ∀ p ∈ letters, p.1.toNat < 0x80 := by decide
  refine List.lookup_eq_none_iff.mpr fun p hp => ?_
  have hne : b ≠ p.1 := by
    rintro rfl
    exact Nat.not_lt.mpr h (hascii p hp)
  simpa using hne

theorem escapeLetter?_wide {c : Char} (h : 0x80 ≤ c.toNat) : escapeLetter? c = none := by
  unfold escapeLetter?
  split <;> first | rfl | exact absurd h (by decide)

/-- An ASCII character is its only byte, and is printed as that byte is. Another character has no
letter, nor has a byte of it, and these are escaped if `wide` says so. -/
theorem encodeChar_cases (wide : Bool) (c : Char) :
    (∃ b, String.utf8EncodeChar c = [b] ∧ letters.lookup b = escapeLetter? c ∧
        isOctalByte wide b = isEscaped wide c) ∨
      (escapeLetter? c = none ∧ isEscaped wide c = wide ∧
        ∀ b ∈ String.utf8EncodeChar c, letters.lookup b = none ∧ isOctalByte wide b = wide) := by
  by_cases hc : c.toNat < 0x80
  · have hletter := lookup_ascii c.toNat hc
    rw [Char.ofNat_toNat] at hletter
    have hb : (UInt8.ofNat c.toNat).toNat = c.toNat := Utf8.toNat_ofNat (by omega)
    refine .inl ⟨_, Utf8.encodeChar_ascii hc, hletter, ?_⟩
    simp only [isOctalByte, isEscaped, UInt8.lt_iff_toNat_lt, UInt8.le_iff_toNat_le,
      ← UInt8.toNat_inj, beq_eq_decide, hb, UInt8.reduceToNat]
  · have hle : 0x80 ≤ c.toNat := Nat.not_lt.mp hc
    have hbytes := Utf8.le_of_mem_encodeChar hle
    refine .inr ⟨escapeLetter?_wide hle, ?_, fun b hb => ⟨lookup_wide (hbytes b hb), ?_⟩⟩
    · simp only [isEscaped, decide_eq_true hle, Bool.and_true, beq_eq_decide]
      rw [decide_eq_false (by omega), decide_eq_false (by omega), Bool.false_or, Bool.false_or]
    · have hb := hbytes b hb
      simp only [isOctalByte, UInt8.lt_iff_toNat_lt, UInt8.le_iff_toNat_le, ← UInt8.toNat_inj,
        beq_eq_decide, UInt8.reduceToNat, decide_eq_true hb, Bool.and_true]
      rw [decide_eq_false (by omega), decide_eq_false (by omega), Bool.false_or, Bool.false_or]

/-- The bytes of a character between quotes are those of its printed form. -/
theorem encode_escapeChar (wide : Bool) (c : Char) :
    Utf8.encode (escapeChar wide c) = (String.utf8EncodeChar c).flatMap (escapeByte wide) := by
  rcases encodeChar_cases wide c with ⟨b, hc, hletter, hoctal⟩ | ⟨hletter, hescaped, hbytes⟩
  · have hplain : Utf8.encode [c] = [b] := (Utf8.encode_singleton c).trans hc
    rw [hc, List.flatMap_singleton, escapeByte, escapeChar, hletter, hoctal, hc,
      List.flatMap_singleton, ← hplain]
    cases escapeLetter? c with
    | some letter => rfl
    | none => exact apply_ite Utf8.encode _ _ _
  · have hbyte : ∀ b ∈ String.utf8EncodeChar c,
        escapeByte wide b = if wide then Utf8.encode (octalEscape b) else [b] := by
      intro b hb
      obtain ⟨hlookup, hoctal⟩ := hbytes b hb
      rw [escapeByte, hlookup, hoctal]
    rw [List.flatMap_congr hbyte, escapeChar, hletter, hescaped]
    cases wide with
    | true => exact List.flatMap_assoc
    | false => exact (Utf8.encode_singleton c).trans (List.flatMap_singleton' _).symm

/-- A character calls for quotes when one of its bytes does. -/
theorem any_encodeChar (wide : Bool) (c : Char) :
    (String.utf8EncodeChar c).any (isQuotedByte wide) =
      ((escapeLetter? c).isSome || isEscaped wide c) := by
  rcases encodeChar_cases wide c with ⟨b, hc, hletter, hoctal⟩ | ⟨hletter, hescaped, hbytes⟩
  · rw [hc, List.any_cons, List.any_nil, Bool.or_false, isQuotedByte, hletter, hoctal]
  · have hbyte : ∀ b ∈ String.utf8EncodeChar c, isQuotedByte wide b = wide := by
      intro b hb
      obtain ⟨hlookup, hoctal⟩ := hbytes b hb
      rw [isQuotedByte, hlookup, hoctal, Option.isSome_none, Bool.false_or]
    rw [hletter, hescaped, Option.isSome_none, Bool.false_or]
    cases wide with
    | true =>
      obtain ⟨b, bs, hc⟩ := List.exists_cons_of_ne_nil (l := String.utf8EncodeChar c)
        String.utf8EncodeChar_ne_nil
      exact List.any_eq_true.mpr ⟨b, by simp [hc], hbyte b (by simp [hc])⟩
    | false => exact List.any_eq_false.mpr fun b hb => by simp [hbyte b hb]

/-! ## The bytes of a path -/

/-- The bytes of a printed path are those of its bytes, printed one by one. -/
theorem printedBytes_encode (wide : Bool) (s : List Char) :
    printedBytes wide (Utf8.encode s) = Utf8.encode (printed wide s) := by
  have hquotes : (Utf8.encode s).any (isQuotedByte wide) = needsQuotes wide s := by
    rw [Utf8.encode, List.any_flatMap, needsQuotes]
    simp only [any_encodeChar]
  have hescaped : (Utf8.encode s).flatMap (escapeByte wide) = Utf8.encode (escaped wide s) := by
    rw [Utf8.encode, List.flatMap_assoc, Utf8.encode, escaped, List.flatMap_assoc]
    exact List.flatMap_congr fun c _ => (encode_escapeChar wide c).symm
  rw [printedBytes, printed, hquotes, hescaped]
  split
  · rw [Utf8.encode_append, Utf8.encode_cons]
    rfl
  · rfl

/-- **A printed path is read as the path**, whatever its characters are and whichever bytes are
escaped. -/
theorem unquote_printedBytes (wide : Bool) (s : List Char) :
    (Utf8.decode (printedBytes wide (Utf8.encode s))).map unquote = .ok s := by
  rw [printedBytes_encode, Utf8.decode_encode, Except.map, unquote_printed]

end RuleDelta.Path

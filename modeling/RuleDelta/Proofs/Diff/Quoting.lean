import Mathlib.Data.List.Chain
import RuleDelta.Diff.Path
import RuleDelta.Proofs.Text.Split
import RuleDelta.Proofs.Text.Utf8

/-!
# Printed paths are read back

A path is printed as it is, or between double quotes when a character of it is escaped: with a
letter for the usual control characters, the double quote and the backslash, and with three octal
digits for each byte of the others. What is printed in either form is read as the path
(`unquote_printed`).

* `escapeChar` is a character between quotes, and `printed` is a path;
* `isChain_escaped` says that a double quote between the quotes has a backslash in front, so a
  closing word such as ` "b/` does not stand there.
-/

namespace RuleDelta.Path

open Text

/-! ## The printed form -/

/-- The letter that stands behind a backslash for a character. -/
def escapeLetter? : Char → Option Char
  | '\x07' => some 'a'
  | '\x08' => some 'b'
  | '\t' => some 't'
  | '\n' => some 'n'
  | '\x0B' => some 'v'
  | '\x0C' => some 'f'
  | '\r' => some 'r'
  | '"' => some '"'
  | '\\' => some '\\'
  | _ => none

/-- A backslash and the three octal digits of a byte. -/
def octalEscape (b : UInt8) : List Char :=
  ['\\', Nat.digitChar (b.toNat / 64), Nat.digitChar (b.toNat / 8 % 8), Nat.digitChar (b.toNat % 8)]

/-- Whether the bytes of a character without a letter are escaped: those of control characters are
and, if `wide` says so, those of all characters behind ASCII. -/
def isEscaped (wide : Bool) (c : Char) : Bool :=
  c.toNat < 0x20 || c.toNat == 0x7F || wide && 0x80 ≤ c.toNat

/-- A character between quotes. -/
def escapeChar (wide : Bool) (c : Char) : List Char :=
  match escapeLetter? c with
  | some letter => ['\\', letter]
  | none => if isEscaped wide c then (String.utf8EncodeChar c).flatMap octalEscape else [c]

/-- A path between quotes, without these. -/
def escaped (wide : Bool) (s : List Char) : List Char :=
  s.flatMap (escapeChar wide)

/-- Whether a path holds a character that is escaped. -/
def needsQuotes (wide : Bool) (s : List Char) : Bool :=
  s.any fun c => (escapeLetter? c).isSome || isEscaped wide c

/-- A path as it is printed. -/
def printed (wide : Bool) (s : List Char) : List Char :=
  if needsQuotes wide s then '"' :: escaped wide s ++ ['"'] else s

/-! ## Reading escapes -/

/-- The byte of an octal digit. -/
def digitByte (d : Nat) : UInt8 :=
  UInt8.ofNat (0x30 + d)

theorem encode_digitChar : ∀ d < 8, String.utf8EncodeChar (Nat.digitChar d) = [digitByte d] ∧
    letterEscape? (digitByte d) = none ∧ octalDigit? (digitByte d) = some d := by
  decide

theorem encode_octalEscape (b : UInt8) : Utf8.encode (octalEscape b) =
    [0x5C, digitByte (b.toNat / 64), digitByte (b.toNat / 8 % 8), digitByte (b.toNat % 8)] := by
  have hb : b.toNat < 256 := b.toNat_lt
  have hslash : String.utf8EncodeChar '\\' = [0x5C] := rfl
  simp only [Utf8.encode, octalEscape, List.flatMap_cons, List.flatMap_nil, hslash,
    encode_digitChar (b.toNat / 64) (by omega), encode_digitChar (b.toNat / 8 % 8) (by omega),
    encode_digitChar (b.toNat % 8) (by omega), List.cons_append, List.nil_append]

theorem octalByte?_digitByte (b : UInt8) :
    octalByte? (digitByte (b.toNat / 64)) (digitByte (b.toNat / 8 % 8))
      (digitByte (b.toNat % 8)) = some b := by
  have hb : b.toNat < 256 := b.toNat_lt
  have hvalue : b.toNat / 64 * 64 + b.toNat / 8 % 8 * 8 + b.toNat % 8 = b.toNat := by omega
  simp only [octalByte?, encode_digitChar (b.toNat / 64) (by omega),
    encode_digitChar (b.toNat / 8 % 8) (by omega), encode_digitChar (b.toNat % 8) (by omega),
    Option.bind_eq_bind, Option.bind_some, Option.pure_def, hvalue, UInt8.ofNat_toNat]

theorem unescapeFrom_octalEscape (b : UInt8) (rest : List UInt8) :
    unescapeFrom 0 (Utf8.encode (octalEscape b) ++ rest) = b :: unescapeFrom 0 rest := by
  have hb : b.toNat < 256 := b.toNat_lt
  obtain ⟨-, hletter, -⟩ := encode_digitChar (b.toNat / 64) (by omega)
  rw [encode_octalEscape]
  simp [unescapeFrom, readEscape?, hletter, octalByte?_digitByte]

theorem unescapeFrom_octalEscapes (bs rest : List UInt8) :
    unescapeFrom 0 (Utf8.encode (bs.flatMap octalEscape) ++ rest) = bs ++ unescapeFrom 0 rest := by
  induction bs with
  | nil => rfl
  | cons b bs ih =>
    rw [List.flatMap_cons, Utf8.encode_append, List.append_assoc, unescapeFrom_octalEscape, ih,
      List.cons_append]

theorem unescapeFrom_letter {c letter : Char} (h : escapeLetter? c = some letter)
    (rest : List UInt8) :
    unescapeFrom 0 (Utf8.encode ['\\', letter] ++ rest) =
      String.utf8EncodeChar c ++ unescapeFrom 0 rest := by
  unfold escapeLetter? at h
  split at h <;> cases h <;> rfl

/-- Bytes that are no backslashes stand for themselves. -/
theorem unescapeFrom_append {bs : List UInt8} (h : ∀ b ∈ bs, b ≠ 0x5C) (rest : List UInt8) :
    unescapeFrom 0 (bs ++ rest) = bs ++ unescapeFrom 0 rest := by
  induction bs with
  | nil => rfl
  | cons b bs ih =>
    obtain ⟨hb, hbs⟩ := List.forall_mem_cons.mp h
    rw [List.cons_append, unescapeFrom, if_neg hb, ih hbs, List.cons_append]

/-- The backslash is a byte of no other character. -/
theorem backslash_not_mem_encodeChar {c : Char} (h : c ≠ '\\') :
    ∀ b ∈ String.utf8EncodeChar c, b ≠ 0x5C := by
  rintro b hb rfl
  by_cases hc : c.toNat < 0x80
  · rw [Utf8.encodeChar_ascii hc, List.mem_singleton, ← UInt8.toNat_inj,
      Utf8.toNat_ofNat (by omega)] at hb
    exact h (Char.toNat_inj.mp hb.symm)
  · exact absurd (Utf8.le_of_mem_encodeChar (Nat.not_lt.mp hc) _ hb) (by decide)

/-- A character between quotes stands for its bytes. -/
theorem unescapeFrom_escapeChar (wide : Bool) (c : Char) (rest : List UInt8) :
    unescapeFrom 0 (Utf8.encode (escapeChar wide c) ++ rest) =
      String.utf8EncodeChar c ++ unescapeFrom 0 rest := by
  unfold escapeChar
  split
  · rename_i letter hletter
    exact unescapeFrom_letter hletter rest
  · rename_i hletter
    split
    · exact unescapeFrom_octalEscapes _ rest
    · have hc : c ≠ '\\' := by
        rintro rfl
        cases hletter
      rw [Utf8.encode_singleton]
      exact unescapeFrom_append (backslash_not_mem_encodeChar hc) rest

theorem unescape_encode_escaped (wide : Bool) (s : List Char) :
    unescape (Utf8.encode (escaped wide s)) = Utf8.encode s := by
  induction s with
  | nil => rfl
  | cons c s ih =>
    rw [escaped, List.flatMap_cons, Utf8.encode_append, unescape, unescapeFrom_escapeChar,
      Utf8.encode_cons, ← ih]
    rfl

/-! ## Reading paths -/

theorem inQuotes?_quoted (s : List Char) : inQuotes? ('"' :: s ++ ['"']) = some s := by
  have hopen : dropWord? ['"'] ('"' :: s ++ ['"']) = some (s ++ ['"']) :=
    dropWord?_append ['"'] (s ++ ['"'])
  have hclose : dropWordEnd? ['"'] (s ++ ['"']) = some s := by
    have hdrop := dropWord?_append ['"'] s.reverse
    rw [dropWordEnd?, List.reverse_append, List.reverse_singleton, hdrop, Option.map_some,
      List.reverse_reverse]
  rw [inQuotes?, hopen, Option.bind_some, hclose]

theorem plain_of_needsQuotes {wide : Bool} {s : List Char} (h : needsQuotes wide s = false) :
    ∀ c ∈ s, escapeLetter? c = none ∧ isEscaped wide c = false := by
  simpa [needsQuotes] using h

/-- A character with a letter does not stand in a path without quotes. -/
theorem not_mem_of_needsQuotes {wide : Bool} {s : List Char} {c : Char}
    (h : needsQuotes wide s = false) (hc : escapeLetter? c ≠ none) : c ∉ s :=
  fun hmem => hc (plain_of_needsQuotes h c hmem).1

theorem normalize_eq_self {s : List Char} (h : '\\' ∉ s) : normalize s = s := by
  refine (List.map_congr_left fun c hc => ?_).trans (List.map_id s)
  have hne : c ≠ '\\' := fun heq => h (heq ▸ hc)
  simp [hne]

theorem inQuotes?_eq_none {s : List Char} (h : '"' ∉ s) : inQuotes? s = none := by
  cases s with
  | nil => rfl
  | cons c s =>
    have hc : '"' ≠ c := fun heq => h (heq ▸ List.mem_cons_self)
    rw [inQuotes?, dropWord?_of_head_ne hc]
    rfl

/-- **A printed path is read as the path.** -/
theorem unquote_printed (wide : Bool) (s : List Char) : unquote (printed wide s) = s := by
  unfold printed
  split
  · rw [unquote, inQuotes?_quoted]
    show Utf8.decodeLossy (unescape (Utf8.encode (escaped wide s))) = s
    rw [unescape_encode_escaped, Utf8.decodeLossy_encode]
  · rename_i hquotes
    have hplain : needsQuotes wide s = false := by simpa using hquotes
    rw [unquote, inQuotes?_eq_none (not_mem_of_needsQuotes hplain (by decide))]
    exact normalize_eq_self (not_mem_of_needsQuotes hplain (by decide))

example : printed true ['é', '\t', '\\'] = "\"\\303\\251\\t\\\\\"".toList := by
  decide

/-- A text without a character that is escaped stands for itself between quotes too. -/
theorem escaped_eq_self {wide : Bool} {s : List Char} (h : needsQuotes wide s = false) :
    escaped wide s = s := by
  refine (List.flatMap_congr fun c hc => ?_).trans (List.flatMap_singleton' s)
  obtain ⟨hletter, hbytes⟩ := plain_of_needsQuotes h c hc
  simp [escapeChar, hletter, hbytes]

/-- A printed path that starts with such a text. -/
theorem printed_append {wide : Bool} {side : List Char} (h : needsQuotes wide side = false)
    (s : List Char) : printed wide (side ++ s) =
      if needsQuotes wide s then '"' :: (side ++ escaped wide s) ++ ['"'] else side ++ s := by
  have hquotes : needsQuotes wide (side ++ s) = needsQuotes wide s := by
    unfold needsQuotes at h ⊢
    rw [List.any_append, h, Bool.false_or]
  have hescaped : escaped wide (side ++ s) = side ++ escaped wide s := by
    rw [escaped, List.flatMap_append, ← escaped, ← escaped, escaped_eq_self h]
  rw [printed, hquotes, hescaped]

/-! ## What stands between the quotes -/

/-- Two characters in a row are not a space and a double quote. -/
def NotSpaceQuote (a b : Char) : Prop :=
  ¬(a = ' ' ∧ b = '"')

/-- Without a space no double quote stands behind one. -/
theorem isChain_of_space_not_mem {s : List Char} (h : ' ' ∉ s) : s.IsChain NotSpaceQuote := by
  refine (List.pairwise_of_forall_mem_list fun a ha b _ => ?_).isChain
  rintro ⟨rfl, -⟩
  exact h ha

theorem digitChar_visible :
    ∀ d < 8, 0x20 < (Nat.digitChar d).toNat := by
  decide

/-- The digits of a byte and their backslash are visible characters. -/
theorem visible_of_mem_octalEscape {b : UInt8} : ∀ c ∈ octalEscape b, 0x20 < c.toNat := by
  have hb : b.toNat < 256 := b.toNat_lt
  have hslash : 0x20 < '\\'.toNat := by decide
  simp only [octalEscape, List.forall_mem_cons, hslash, true_and]
  exact ⟨digitChar_visible _ (by omega), digitChar_visible _ (by omega),
    digitChar_visible _ (by omega), by simp⟩

theorem visible_of_mem_octalEscapes (bs : List UInt8) :
    ∀ c ∈ bs.flatMap octalEscape, 0x20 < c.toNat := by
  intro c hc
  obtain ⟨b, -, hc⟩ := List.mem_flatMap.mp hc
  exact visible_of_mem_octalEscape c hc

theorem escapeLetter?_visible {c letter : Char} (h : escapeLetter? c = some letter) :
    0x20 < letter.toNat := by
  unfold escapeLetter? at h
  split at h <;> cases h <;> decide

/-- A character between quotes is written with itself or, from a backslash on, with visible
characters. -/
theorem escapeChar_cases (wide : Bool) (c : Char) :
    (escapeChar wide c = [c] ∧ c ≠ '"' ∧ 0x20 ≤ c.toNat) ∨
      ∃ rest, escapeChar wide c = '\\' :: rest ∧ ∀ d ∈ rest, 0x20 < d.toNat := by
  unfold escapeChar
  split
  · rename_i letter hletter
    exact .inr ⟨[letter], rfl, by simpa using escapeLetter?_visible hletter⟩
  · rename_i hletter
    split
    · obtain ⟨b, bs, hbytes⟩ := List.exists_cons_of_ne_nil (l := String.utf8EncodeChar c)
        String.utf8EncodeChar_ne_nil
      have hvisible := visible_of_mem_octalEscapes (b :: bs)
      rw [hbytes]
      exact .inr ⟨_, rfl, fun d hd => hvisible d (List.mem_cons_of_mem _ hd)⟩
    · rename_i hplain
      have hcontrol : ¬c.toNat < 0x20 := by simp_all [isEscaped]
      refine .inl ⟨rfl, ?_, by omega⟩
      rintro rfl
      cases hletter

/-- A printed path holds no control characters. -/
theorem le_of_mem_printed {wide : Bool} {s : List Char} :
    ∀ c ∈ printed wide s, 0x20 ≤ c.toNat := by
  intro d hd
  unfold printed at hd
  split at hd
  · have hquote : 0x20 ≤ '"'.toNat := by decide
    have hslash : 0x20 ≤ '\\'.toNat := by decide
    simp only [List.cons_append, List.mem_cons, List.mem_append, escaped, List.mem_flatMap,
      List.not_mem_nil, or_false] at hd
    rcases hd with rfl | ⟨c, -, hc⟩ | rfl
    · exact hquote
    · rcases escapeChar_cases wide c with ⟨heq, -, hle⟩ | ⟨rest, heq, hvisible⟩
      · rw [heq, List.mem_singleton] at hc
        exact hc ▸ hle
      · rw [heq] at hc
        rcases List.mem_cons.mp hc with rfl | hc
        · exact hslash
        · exact (hvisible d hc).le
    · exact hquote
  · rename_i hquotes
    have hplain := (plain_of_needsQuotes (by simpa using hquotes) d hd).2
    have hcontrol : ¬d.toNat < 0x20 := by simp_all [isEscaped]
    omega

/-- **A double quote between the quotes has no space in front.** -/
theorem isChain_escaped (wide : Bool) (s : List Char) : (escaped wide s).IsChain NotSpaceQuote := by
  suffices key : (escaped wide s).IsChain NotSpaceQuote ∧ (escaped wide s).head? ≠ some '"' from
    key.1
  induction s with
  | nil => exact ⟨.nil, by simp [escaped]⟩
  | cons c s ih =>
    obtain ⟨hchain, hhead⟩ := ih
    rw [escaped, List.flatMap_cons]
    have hback : ∀ a, ∀ b ∈ (s.flatMap (escapeChar wide)).head?, NotSpaceQuote a b := by
      rintro a b hb ⟨-, rfl⟩
      exact hhead hb
    rcases escapeChar_cases wide c with ⟨heq, hc, -⟩ | ⟨rest, heq, hvisible⟩
    · rw [heq]
      refine ⟨List.isChain_append.mpr ⟨.singleton c, hchain, fun a _ => hback a⟩, ?_⟩
      simpa using hc
    · have hfront : ' ' ∉ '\\' :: rest := by
        simpa using fun hmem => absurd (hvisible ' ' hmem) (by decide)
      rw [heq]
      refine ⟨List.isChain_append.mpr ⟨isChain_of_space_not_mem hfront, hchain,
        fun a _ => hback a⟩, ?_⟩
      simp

/-- **The word that starts the quoted name of the new side does not stand in a quoted name.** -/
theorem splitLast?_quotedName (wide : Bool) (front s : List Char) :
    splitLast? " \"b/".toList (front ++ (" \"b/".toList ++ (escaped wide s ++ ['"']))) =
      some (front, escaped wide s ++ ['"']) := by
  have hchain := List.isChain_reverse.mpr (isChain_escaped wide s)
  refine splitLast?_append fun v hv hsuffix => ?_
  rw [List.reverse_append, List.reverse_singleton, List.singleton_append] at hsuffix
  have hword : " \"b/".toList.reverse = ['/', 'b', '"', ' '] := rfl
  rw [hword]
  rcases List.suffix_cons_iff.mp hsuffix with rfl | hsuffix
  · exact dropWord?_of_head_ne (by decide) _ _
  -- the word would need a quote with a space behind it, which the reversed name lacks
  match v, hv with
  | [a], _ => simp [dropWord?]
  | [a, b], _ => simp [dropWord?]
  | [a, b, c], _ => simp [dropWord?]
  | a :: b :: c :: d :: rest, _ =>
    have hrest := (List.isChain_cons_cons.mp (hchain.suffix hsuffix)).2
    have hnot : NotSpaceQuote d c :=
      (List.isChain_cons_cons.mp (List.isChain_cons_cons.mp hrest).2).1
    have hne : '"' = c → ' ' ≠ d := fun hc hd => hnot ⟨hd.symm, hc.symm⟩
    simpa [dropWord?] using fun _ _ => hne

end RuleDelta.Path

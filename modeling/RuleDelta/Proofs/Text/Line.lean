import Mathlib.Tactic.SplitIfs
import RuleDelta.LineSet
import RuleDelta.Text.Line
import RuleDelta.Text.Utf8

/-!
# Counting lines

A file counts its lines by its bytes and a text by its characters. The two counts agree
(`length_lines_of_decode`): a line feed is one byte in UTF-8 and a part of no other character.
-/

namespace RuleDelta.Text

open LineSet Utf8

/-! ## The count, character by character -/

theorem length_pieces_cons (c : Char) (s : List Char) :
    (pieces (c :: s)).length =
      if c = '\n' then (pieces s).length + 1 else max 1 (pieces s).length := by
  by_cases h : c = '\n'
  · simp [pieces, h]
  · cases hp : pieces s with
    | nil => simp [pieces, h, hp]
    | cons p ps => simp [pieces, h, hp]

theorem lineCount_pos {s : List UInt8} (h : s ≠ []) : 1 ≤ lineCount s := by
  obtain ⟨b, hb⟩ : ∃ b, s.getLast? = some b := ⟨s.getLast h, List.getLast?_eq_some_getLast h⟩
  simp only [lineCount, hb]
  split_ifs with hfeed
  · refine List.count_pos_iff.mpr ?_
    rw [← hfeed]
    exact List.mem_of_getLast? hb
  · omega

theorem lineCount_cons (b : UInt8) (s : List UInt8) :
    lineCount (b :: s) = if b = 0x0A then lineCount s + 1 else max 1 (lineCount s) := by
  cases s with
  | nil => by_cases h : b = 0x0A <;> simp [lineCount, h]
  | cons c t =>
    have hpos := lineCount_pos (s := c :: t) (by simp)
    have hlast : (b :: c :: t).getLast? = (c :: t).getLast? := List.getLast?_cons_cons
    obtain ⟨x, hx⟩ : ∃ x, (c :: t).getLast? = some x :=
      ⟨(c :: t).getLast (by simp), List.getLast?_eq_some_getLast (by simp)⟩
    simp only [lineCount, hlast, hx] at hpos ⊢
    by_cases h : b = 0x0A
    · rw [h, List.count_cons_self, if_pos rfl]
      split_ifs <;> rfl
    · rw [List.count_cons_of_ne h, if_neg h]
      omega

/-- Bytes that are no line feeds start no line behind the first. -/
theorem lineCount_append_of_not_mem {front : List UInt8} (hfront : ∀ b ∈ front, b ≠ 0x0A)
    (s : List UInt8) : max 1 (lineCount (front ++ s)) = max 1 (lineCount s) := by
  induction front with
  | nil => rfl
  | cons b front ih =>
    have hb := hfront b (by simp)
    rw [List.cons_append, lineCount_cons, if_neg hb, ih fun x hx => hfront x (by simp [hx])]
    omega

/-! ## Characters and their bytes -/

theorem ofBits_eq_newline_iff (n : Nat) : ofBits n = '\n' ↔ n = 10 := by
  constructor
  · intro h
    by_cases hn : n.isValidChar
    · have := congrArg Char.toNat h
      rw [ofBits, Char.ofNat, dif_pos hn] at this
      exact this
    · rw [ofBits, Char.ofNat, dif_neg hn] at h
      exact absurd h (by decide)
  · rintro rfl
    rfl

/-- What the first byte of a character of several bytes says about its number of bytes, and about
the value of its second one. -/
theorem lead?_eq_some {a : UInt8} {l : Lead} (h : lead? a = some l) :
    0x80 ≤ l.low.toNat ∧ l.high.toNat ≤ 0xBF ∧
      ((l.tails = 1 ∧ 0xC2 ≤ a.toNat ∧ a.toNat ≤ 0xDF) ∨
        (l.tails = 2 ∧ 0xE0 ≤ a.toNat ∧ a.toNat ≤ 0xEF ∧ (a.toNat = 0xE0 → l.low.toNat = 0xA0)) ∨
        (l.tails = 3 ∧ 0xF0 ≤ a.toNat ∧ a.toNat ≤ 0xF4 ∧ (a.toNat = 0xF0 → l.low.toNat = 0x90))) := by
  simp only [lead?, Bool.and_eq_true, decide_eq_true_eq, beq_iff_eq, UInt8.le_iff_toNat_le,
    ← UInt8.toNat_inj, UInt8.reduceToNat] at h
  split_ifs at h <;> simp only [Option.some.injEq] at h <;> subst h <;> simp <;> omega

/-- The bytes of a character hold a line feed only if the character is one. -/
def FeedsOf (c : Char) (front : List UInt8) : Prop :=
  front ≠ [] ∧ (c = '\n' ∧ front = [0x0A] ∨ c ≠ '\n' ∧ ∀ b ∈ front, b ≠ 0x0A)

theorem feedsOf_ascii {a : UInt8} : FeedsOf (ofBits a.toNat) [a] := by
  refine ⟨by simp, ?_⟩
  have h : a = 0x0A ↔ a.toNat = 10 := by rw [← UInt8.toNat_inj]; rfl
  rw [ne_eq, ofBits_eq_newline_iff, ← h]
  by_cases ha : a = 0x0A <;> simp [ha]

theorem feedsOf_long {front : List UInt8} {n : Nat} (hne : front ≠ [])
    (hfront : ∀ b ∈ front, 0x80 ≤ b.toNat) (hn : 0x80 ≤ n) : FeedsOf (ofBits n) front := by
  refine ⟨hne, .inr ⟨?_, ?_⟩⟩
  · rw [ne_eq, ofBits_eq_newline_iff]
    omega
  · rintro b hb rfl
    exact absurd (hfront _ hb) (by decide)

theorem isTail_iff {b : UInt8} : isTail b = true ↔ 0x80 ≤ b.toNat ∧ b.toNat ≤ 0xBF := by
  simp [isTail, UInt8.le_iff_toNat_le]

/-- The second byte of a character lies between the bounds that the first one sets. -/
theorem second_mem {l : Lead} {b : UInt8}
    (h : ¬(!(decide (l.low ≤ b) && decide (b ≤ l.high))) = true) :
    l.low.toNat ≤ b.toNat ∧ b.toNat ≤ l.high.toNat := by
  simpa [UInt8.le_iff_toNat_le] using h

/-- A first chunk that is a character takes its bytes off the front. -/
theorem chunks_eq_char_cons {s : List UInt8} {c : Char} {cs : List Chunk} :
    chunks s = .char c :: cs → ∃ front rest, s = front ++ rest ∧ cs = chunks rest ∧
      FeedsOf c front := by
  fun_cases chunks s <;> simp only [reduceCtorEq, List.cons.injEq, false_and, false_imp_iff,
    Chunk.char.injEq, and_imp] <;> rintro rfl rfl
  case case2 a rest _ => exact ⟨[a], rest, rfl, rfl, feedsOf_ascii⟩
  case case6 a _ l hl b rest hb htails =>
    obtain ⟨hlow, hhigh, hlead⟩ := lead?_eq_some hl
    have hb := second_mem hb
    rw [beq_iff_eq] at htails
    refine ⟨[a, b], rest, rfl, rfl, feedsOf_long (by simp) ?_ ?_⟩
    · simp
      omega
    · simp only [tailBits]
      omega
  case case9 a _ l hl b hb htails₁ c rest hc htails₂ =>
    obtain ⟨hlow, hhigh, hlead⟩ := lead?_eq_some hl
    have hb := second_mem hb
    have hc := isTail_iff.mp (by simpa using hc)
    rw [beq_iff_eq] at htails₁ htails₂
    refine ⟨[a, b, c], rest, rfl, rfl, feedsOf_long (by simp) ?_ ?_⟩
    · simp
      omega
    · simp only [tailBits]
      omega
  case case12 a _ l hl b hb htails₁ c hc htails₂ d rest hd =>
    obtain ⟨hlow, hhigh, hlead⟩ := lead?_eq_some hl
    have hb := second_mem hb
    have hc := isTail_iff.mp (by simpa using hc)
    have hd := isTail_iff.mp (by simpa using hd)
    rw [beq_iff_eq] at htails₁ htails₂
    refine ⟨[a, b, c, d], rest, rfl, rfl, feedsOf_long (by simp) ?_ ?_⟩
    · simp
      omega
    · simp only [tailBits]
      omega

theorem chunks_eq_nil {s : List UInt8} (h : chunks s = []) : s = [] := by
  revert h
  fun_cases chunks s <;> simp

/-! ## Both counts -/

theorem ofChunks_eq_ok_nil {index : Nat} {cs : List Chunk} (h : ofChunks index cs = .ok []) :
    cs = [] := by
  cases cs with
  | nil => rfl
  | cons chunk cs =>
    cases chunk with
    | char c =>
      cases hcs : ofChunks (index + c.utf8Size) cs <;> simp [ofChunks, hcs, Except.map] at h
    | invalid | cut => simp [ofChunks] at h

theorem ofChunks_eq_ok_cons {index : Nat} {cs : List Chunk} {c : Char} {text : List Char}
    (h : ofChunks index cs = .ok (c :: text)) :
    ∃ rest, cs = .char c :: rest ∧ ofChunks (index + c.utf8Size) rest = .ok text := by
  cases cs with
  | nil => simp [ofChunks] at h
  | cons chunk cs =>
    cases chunk with
    | char d =>
      cases hcs : ofChunks (index + d.utf8Size) cs with
      | error => simp [ofChunks, hcs, Except.map] at h
      | ok tail =>
        simp only [ofChunks, hcs, Except.map, Except.ok.injEq, List.cons.injEq] at h
        obtain ⟨rfl, rfl⟩ := h
        exact ⟨cs, rfl, hcs⟩
    | invalid | cut => simp [ofChunks] at h

theorem lineCount_feedsOf {c : Char} {front : List UInt8} (h : FeedsOf c front)
    (rest : List UInt8) :
    lineCount (front ++ rest) =
      if c = '\n' then lineCount rest + 1 else max 1 (lineCount rest) := by
  obtain ⟨hne, ⟨rfl, rfl⟩ | ⟨hc, hfront⟩⟩ := h
  · exact lineCount_cons 0x0A rest
  · have hpos := lineCount_pos (s := front ++ rest) (by simp [hne])
    have := lineCount_append_of_not_mem hfront rest
    rw [if_neg hc]
    omega

/-- **A text has as many lines as the file that holds it.** -/
theorem length_lines_of_decode {content : List UInt8} {text : List Char}
    (h : decode content = .ok text) : (lines text).length = lineCount content := by
  suffices key : ∀ index, ofChunks index (chunks content) = .ok text →
      (pieces text).length = lineCount content from length_lines text ▸ key 0 h
  clear h
  induction text generalizing content with
  | nil =>
    intro index h
    rw [chunks_eq_nil (ofChunks_eq_ok_nil h)]
    rfl
  | cons c text ih =>
    intro index h
    obtain ⟨cs, hcs, htext⟩ := ofChunks_eq_ok_cons h
    obtain ⟨front, rest, rfl, rfl, hfeeds⟩ := chunks_eq_char_cons hcs
    rw [length_pieces_cons, lineCount_feedsOf hfeeds, ih _ htext]

end RuleDelta.Text

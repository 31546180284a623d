import Mathlib.Data.List.Chain
import RuleDelta.Proofs.LineSet
import RuleDelta.Proofs.Text.Numeral
import RuleDelta.Proofs.Text.Split

/-!
# The written form of a set of lines

A set of lines is written as its maximal ranges, ascending, with commas between them. Cut at its
commas, the text is read as these ranges, so sets are equal when their texts are.

* `runs` cuts the ascending list of the lines where a line is missing (`flatMap_runs`,
  `isChain_runs`);
* `Part` is what stands between two commas, and `readParts?` reads a text;
* `MaximalRanges` says of parts that they are the one right way to write a list of lines;
* `wordRender?` computes the text with numbers of a machine word, and `writesSet_render` says that
  it does not overflow, how the text is read, and which lists have the same one.
-/

namespace RuleDelta.LineSet

open Text

/-! ## Maximal ranges -/

theorem toList_single (line : Nat) : (LineRange.single line).toList = [line] := by
  simp [LineRange.toList, LineRange.single]

/-- A range can grow by the line behind it. -/
theorem first_le_of_eq {run : LineRange} {line : Nat} (h : line = run.last + 1) :
    run.first ≤ line := by
  have := run.first_le_last
  omega

theorem toList_grown (run : LineRange) :
    (LineRange.mk run.first (run.last + 1) (first_le_of_eq rfl)).toList =
      run.toList ++ [run.last + 1] := by
  have hle := run.first_le_last
  have hlength : run.last + 1 + 1 - run.first = run.last + 1 - run.first + 1 := by omega
  have hend : run.first + (run.last + 1 - run.first) = run.last + 1 := by omega
  rw [LineRange.toList, hlength, List.range'_concat, Nat.one_mul, hend]
  rfl

/-- No line is lost and none is added, by induction on the lines behind the growing range. -/
theorem flatMap_runsFrom (run : LineRange) (lines : List Nat) :
    (runsFrom run lines).flatMap LineRange.toList = run.toList ++ lines := by
  induction lines generalizing run with
  | nil => simp [runsFrom]
  | cons line lines ih =>
    rw [runsFrom]
    split
    · rename_i h
      subst h
      rw [ih, toList_grown, List.append_assoc, List.singleton_append]
    · rw [List.flatMap_cons, ih, toList_single, List.singleton_append]

/-- Between two ranges at least one line is missing. -/
def Apart (r s : LineRange) : Prop :=
  r.last + 1 < s.first

/-- The growing range ends where a line is missing, so the next one is apart from it. -/
theorem isChain_runsFrom (run : LineRange) {lines : List Nat}
    (h : (run.last :: lines).Pairwise (· < ·)) :
    (runsFrom run lines).IsChain Apart ∧
      ∀ r ∈ (runsFrom run lines).head?, r.first = run.first := by
  induction lines generalizing run with
  | nil => simp [runsFrom]
  | cons line lines ih =>
    obtain ⟨hlast, hlines⟩ := List.pairwise_cons.mp h
    rw [runsFrom]
    split
    · rename_i heq
      exact ih ⟨run.first, line, first_le_of_eq heq⟩ hlines
    · rename_i hne
      obtain ⟨hchain, hfirst⟩ := ih (.single line) hlines
      have hlt : run.last < line := hlast line List.mem_cons_self
      refine ⟨List.isChain_cons.mpr ⟨fun s hs => ?_, hchain⟩, by simp⟩
      have hs : s.first = line := hfirst s hs
      unfold Apart
      omega

theorem flatMap_runs (l : List Nat) : (runs l).flatMap LineRange.toList = canonical l := by
  unfold runs
  cases canonical l with
  | nil => rfl
  | cons line rest => rw [flatMap_runsFrom, toList_single, List.singleton_append]

theorem isChain_runs (l : List Nat) : (runs l).IsChain Apart := by
  have h := canonical_ascending l
  unfold runs
  cases hl : canonical l with
  | nil => exact .nil
  | cons line rest => exact (isChain_runsFrom (.single line) (hl ▸ h)).1

theorem runs_congr {l m : List Nat} (h : ∀ n, n ∈ l ↔ n ∈ m) : runs l = runs m := by
  rw [runs, runs, canonical_congr h]

/-! ## Parts -/

/-- What stands between two commas. -/
inductive Part
  /-- One number. -/
  | line (n : Nat)
  /-- Two numbers with a dash between them. -/
  | lines (first last : Nat)
  deriving DecidableEq, Repr

namespace Part

/-- The first line of a part. -/
def first : Part → Nat
  | line n => n
  | lines first _ => first

/-- The last line of a part. -/
def last : Part → Nat
  | line n => n
  | lines _ last => last

/-- The lines of a part, ascending. -/
def toList : Part → List Nat
  | line n => [n]
  | lines first last => List.range' first (last + 1 - first)

/-- How a range is written. -/
def ofRange (r : LineRange) : Part :=
  if r.first = r.last then .line r.first else .lines r.first r.last

@[simp] theorem first_ofRange (r : LineRange) : (ofRange r).first = r.first := by
  unfold ofRange
  split <;> rfl

@[simp] theorem last_ofRange (r : LineRange) : (ofRange r).last = r.last := by
  unfold ofRange
  split
  · assumption
  · rfl

@[simp] theorem toList_ofRange (r : LineRange) : (ofRange r).toList = r.toList := by
  unfold ofRange LineRange.toList
  split
  · rename_i h
    simp [toList, h]
  · rfl

theorem lt_of_ofRange_eq {r : LineRange} {m n : Nat} (h : ofRange r = .lines m n) : m < n := by
  have hle := r.first_le_last
  unfold ofRange at h
  split at h
  · cases h
  · cases h
    omega

end Part

/-- The part that a text is. -/
def readPart? (s : List Char) : Option Part :=
  match splitAt '-' s with
  | [n] => (digits? 10 n).map .line
  | [m, n] => (digits? 10 m).bind fun first => (digits? 10 n).map fun last => .lines first last
  | _ => none

/-- The parts of a text between its commas; an empty text has none. -/
def readParts? (s : List Char) : Option (List Part) :=
  if s.isEmpty then some [] else (splitAt ',' s).mapM readPart?

theorem toList_render_range (r : LineRange) :
    r.render.toList = if r.first = r.last then Nat.toDigits 10 r.first
      else Nat.toDigits 10 r.first ++ '-' :: Nat.toDigits 10 r.last := by
  unfold LineRange.render
  split <;> simp [toString, String.toList_append]

theorem readPart?_render (r : LineRange) : readPart? r.render.toList = some (.ofRange r) := by
  have hdash : ∀ n, '-' ∉ Nat.toDigits 10 n := not_mem_toDigits (by decide)
  rw [toList_render_range, Part.ofRange]
  split
  · rw [readPart?, splitAt_eq_singleton (hdash _)]
    simp [digits?_toDigits]
  · rw [readPart?, splitAt_append (hdash _), splitAt_eq_singleton (hdash _)]
    simp [digits?_toDigits]

/-- A range is written with digits and a dash. -/
theorem not_mem_render_range {c : Char} (hdigit : c.isDigit = false) (hdash : c ≠ '-')
    (r : LineRange) : c ∉ r.render.toList := by
  have hdigits : ∀ n, c ∉ Nat.toDigits 10 n := not_mem_toDigits hdigit
  rw [toList_render_range]
  split <;> simp [hdigits, hdash]

theorem render_range_ne_nil (r : LineRange) : r.render.toList ≠ [] := by
  rw [toList_render_range]
  split <;> simp [Nat.toDigits_ne_nil]

theorem mapM_readPart? (rs : List LineRange) :
    (rs.map fun r => r.render.toList).mapM readPart? = some (rs.map Part.ofRange) := by
  induction rs with
  | nil => rfl
  | cons r rs ih => simp [readPart?_render, ih]

theorem toList_render (l : List Nat) :
    (render l).toList = [','].intercalate ((runs l).map fun r => r.render.toList) := by
  rw [render, String.toList_intercalate, List.map_map]
  rfl

/-- The ranges of a set are read back from its text. -/
theorem readParts?_render (l : List Nat) :
    readParts? (render l).toList = some ((runs l).map Part.ofRange) := by
  rw [toList_render, readParts?]
  cases runs l with
  | nil => rfl
  | cons r rs =>
    have hcomma : ∀ part ∈ (r :: rs).map fun r => r.render.toList, ',' ∉ part :=
      List.forall_mem_map.mpr fun r _ => not_mem_render_range rfl (by decide) r
    have hsplit := splitAt_intercalate (by simp) hcomma
    have hne : [','].intercalate ((r :: rs).map fun r => r.render.toList) ≠ [] := by
      intro hnil
      rw [hnil] at hsplit
      exact render_range_ne_nil r (List.cons.inj hsplit).1.symm
    rw [if_neg (by simpa using hne), hsplit, mapM_readPart?]

/-- The parts are the maximal ranges of some lines, ascending. -/
structure MaximalRanges (l : List Nat) (parts : List Part) : Prop where
  /-- The lines of the parts, one part after the other, ascend, so none comes twice. -/
  ascending : (parts.flatMap Part.toList).Pairwise (· < ·)
  mem_iff : ∀ n, n ∈ parts.flatMap Part.toList ↔ n ∈ l
  /-- A dash stands between two different numbers. -/
  lt_of_mem : ∀ m n, Part.lines m n ∈ parts → m < n
  /-- Between a part and the next one at least one number is missing. -/
  apart : parts.IsChain fun p q => p.last + 1 < q.first

theorem maximalRanges_runs (l : List Nat) : MaximalRanges l ((runs l).map Part.ofRange) := by
  have hlines : ((runs l).map Part.ofRange).flatMap Part.toList = canonical l := by
    simp only [List.flatMap_map, Part.toList_ofRange, flatMap_runs]
  refine ⟨hlines ▸ canonical_ascending l, fun n => hlines ▸ mem_canonical, fun m n hmem => ?_, ?_⟩
  · obtain ⟨r, -, hr⟩ := List.mem_map.mp hmem
    exact Part.lt_of_ofRange_eq hr
  · have hchain : (runs l).IsChain fun r s => r.last + 1 < s.first := isChain_runs l
    rw [List.isChain_map]
    simpa only [Part.last_ofRange, Part.first_ofRange] using hchain

/-! ## Numbers of a machine word -/

/-- `runsFrom` with numbers of a machine word: `none` if a sum is not one. -/
def wordRunsFrom? (run : LineRange) : List Nat → Option (List LineRange)
  | [] => some [run]
  | line :: rest =>
    if run.last + 1 ≤ wordMax then
      if h : line = run.last + 1 then
        wordRunsFrom? ⟨run.first, line, first_le_of_eq h⟩ rest
      else (wordRunsFrom? (.single line) rest).map (run :: ·)
    else none

/-- `render` with numbers of a machine word: `none` if a sum is not one. -/
def wordRender? (l : List Nat) : Option String :=
  match canonical l with
  | [] => some ""
  | line :: rest =>
    (wordRunsFrom? (.single line) rest).map fun rs => ",".intercalate (rs.map LineRange.render)

/-- The sum is formed only where a greater line follows, so it is at most that line. -/
theorem wordRunsFrom?_eq (run : LineRange) {lines : List Nat}
    (h : (run.last :: lines).Pairwise (· < ·)) (hmax : ∀ n ∈ lines, n ≤ wordMax) :
    wordRunsFrom? run lines = some (runsFrom run lines) := by
  induction lines generalizing run with
  | nil => rfl
  | cons line lines ih =>
    obtain ⟨hlast, hlines⟩ := List.pairwise_cons.mp h
    obtain ⟨hline, hrest⟩ := List.forall_mem_cons.mp hmax
    have hsum : run.last + 1 ≤ wordMax := Nat.le_trans (hlast line List.mem_cons_self) hline
    rw [wordRunsFrom?, runsFrom, if_pos hsum]
    split
    · exact ih _ hlines hrest
    · rw [ih (.single line) hlines hrest, Option.map_some]

theorem wordRender?_eq {l : List Nat} (h : ∀ n ∈ l, n ≤ wordMax) :
    wordRender? l = some (render l) := by
  have hascending := canonical_ascending l
  have hmax : ∀ n ∈ canonical l, n ≤ wordMax := fun n hn => h n (mem_canonical.mp hn)
  unfold wordRender? render runs
  cases hl : canonical l with
  | nil => rfl
  | cons line rest =>
    rw [hl] at hascending hmax
    simp only [wordRunsFrom?_eq (.single line) hascending (List.forall_mem_cons.mp hmax).2,
      Option.map_some]

/-- The text of a list of lines is the canonical one of their set. -/
structure WritesSet (l : List Nat) : Prop where
  /-- No sum is greater than a number of a machine word. -/
  computed : wordRender? l = some (render l)
  /-- The text is read as the maximal ranges of the lines. -/
  read : ∃ parts, readParts? (render l).toList = some parts ∧ MaximalRanges l parts
  /-- The text is that of the lists with the same lines, and of no others. -/
  determined : ∀ m, render m = render l ↔ ∀ n, n ∈ m ↔ n ∈ l

/-- **A set of lines has one text**, whatever the order of the lines and however often one comes,
up to the greatest number of a machine word. -/
theorem writesSet_render {l : List Nat} (h : ∀ n ∈ l, n ≤ wordMax) : WritesSet l := by
  refine ⟨wordRender?_eq h, ⟨_, readParts?_render l, maximalRanges_runs l⟩, fun m => ⟨fun heq => ?_,
    fun hmem => ?_⟩⟩
  · have hparts : (runs m).map Part.ofRange = (runs l).map Part.ofRange := by
      rw [← Option.some_inj, ← readParts?_render, ← readParts?_render, heq]
    intro n
    rw [← (maximalRanges_runs m).mem_iff, hparts, (maximalRanges_runs l).mem_iff]
  · rw [render, render, runs_congr hmem]

/-- Lines out of order, twice, and up to the greatest number. -/
def endLines : List Nat :=
  [wordMax, 7, 2, 1, wordMax - 1, 3, 7]

theorem writesSet_endLines : (∀ n ∈ endLines, n ≤ wordMax) ∧ WritesSet endLines :=
  ⟨by decide, writesSet_render (by decide)⟩

example : render [wordMax, 7, 2, 1, wordMax - 1, 3, 7] =
    "1-3,7,18446744073709551614-18446744073709551615" := by
  decide +kernel

end RuleDelta.LineSet

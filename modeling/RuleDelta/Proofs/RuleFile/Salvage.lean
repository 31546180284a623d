import Mathlib
import RuleDelta.Proofs.RuleFile.Line
import RuleDelta.Proofs.RuleFile.Scalar
import RuleDelta.Proofs.RuleFile.Spans
import RuleDelta.Proofs.Text.Utf8
import RuleDelta.RuleFile.Parse

/-!
# Where a lenient reading breaks down

A lenient reading cuts the lines of an item to their common indentation. A line with text starts
with that many spaces. A line of other white space may be longer than that in bytes, and then the
cut can fall inside of one of its characters.

* `RuleBlock.Splits` says that this happens to an item;
* `CutsFit` says that no other cut or index of a scan is out of place;
* `BreaksDown` says when a reading breaks down, and `breaksDown` proves it.
-/

namespace RuleDelta.RuleFile

open Text

/-! ## The lines of an item -/

/-- The lines of an item that are cut as they stand: the first one without its dash, and those of
block scalars. -/
def exposedLines (dash : Nat) : List (List Char × Bool) → List (List Char)
  | [] => []
  | first :: rest => blankDash dash first.1 :: (rest.filter Prod.snd).map Prod.fst

/-- A line of white space in an item is cut inside of a character. -/
def RuleBlock.Splits (s : Scanned) (b : RuleBlock) : Prop :=
  ∃ line ∈ exposedLines b.dash (linesOf s.lines b), allBlank line = true ∧
    Utf8.SplitAt (commonIndent (itemLines b.dash (linesOf s.lines b))) line

theorem cutLine?_eq_none_iff {n : Nat} {line : List Char} :
    cutLine? n line = none ↔ Utf8.SplitAt n line := by
  unfold cutLine?
  split
  · rename_i hshort
    have hnot : ¬Utf8.SplitAt n line := fun h => Nat.lt_asymm hshort h.lt_byteLength
    simp [hnot]
  · rename_i hlong
    rw [Utf8.dropBytes?_eq_none_iff, or_iff_right hlong]

theorem utf8Size_of_mem_indent (line : List Char) :
    ∀ c ∈ line.takeWhile (· = ' '), c.utf8Size = 1 := fun c hc => by
  obtain rfl : c = ' ' := by simpa using List.mem_takeWhile_imp hc
  rfl

/-- The spaces in front of a line can be dropped. -/
theorem dropBytes?_of_le_indentOf {n : Nat} {line : List Char} (h : n ≤ indentOf line) :
    Utf8.dropBytes? n line = some (line.drop n) := by
  have hline : line.takeWhile (· = ' ') ++ unindented line = line := List.takeWhile_append_dropWhile
  have htake : line.take n = (line.takeWhile (· = ' ')).take n := by
    rw [← hline, List.take_append_of_le_length h, hline]
  have hspace : ∀ c ∈ line.take n, c.utf8Size = 1 := fun c hc =>
    utf8Size_of_mem_indent line c (List.mem_of_mem_take (htake ▸ hc))
  have hlength : (line.take n).length = n := by
    rw [htake, List.length_take_of_le h]
  have hdrop := Utf8.dropBytes?_append hspace (line.drop n)
  rwa [hlength, List.take_append_drop] at hdrop

/-- A line with text is cut in front of the text. -/
theorem not_splitAt_commonIndent {lines : List (List Char)} {line : List Char} (h : line ∈ lines)
    (htext : allBlank line = false) : ¬Utf8.SplitAt (commonIndent lines) line := by
  have hmem : indentOf line ∈ (lines.filter fun line => !allBlank line).map indentOf :=
    List.mem_map_of_mem (List.mem_filter.mpr ⟨h, by simp [htext]⟩)
  have hle : commonIndent lines ≤ indentOf line := List.min?_getD_le_of_mem hmem
  intro hsplit
  have hnone := Utf8.dropBytes?_eq_none_iff.mpr (.inr hsplit)
  rw [dropBytes?_of_le_indentOf hle] at hnone
  cases hnone

theorem mapM_eq_none_iff {α β : Type} {f : α → Option β} {xs : List α} :
    xs.mapM f = none ↔ ∃ x ∈ xs, f x = none := by
  induction xs with
  | nil => simp
  | cons x xs ih =>
    cases hx : f x with
    | none => simp [List.mapM_cons, hx]
    | some y =>
      simp only [List.mapM_cons, hx, List.mem_cons, exists_eq_or_imp]
      cases hxs : xs.mapM f <;> simp [hxs, ← ih]

/-- A line of white space that is cut inside of a character is one that is cut as it stands. -/
theorem mem_exposedLines_iff {dash n : Nat} {rows : List (List Char × Bool)} {line : List Char}
    (hblank : allBlank line = true) (hsplit : Utf8.SplitAt n line) :
    line ∈ itemLines dash rows ↔ line ∈ exposedLines dash rows := by
  cases rows with
  | nil => rfl
  | cons first rest =>
    rw [itemLines, exposedLines, List.mem_cons, List.mem_cons]
    refine or_congr_right ?_
    constructor
    · intro hmem
      obtain ⟨⟨row, marked⟩, hrow, rfl⟩ := List.mem_map.mp hmem
      cases marked with
      | true => exact List.mem_map_of_mem (List.mem_filter.mpr ⟨hrow, rfl⟩)
      | false =>
        exfalso
        by_cases hcomment : isBlankOrComment row = true
        · have hnil : keepLine (row, false) = [] := by simp [keepLine, hcomment]
          rw [hnil] at hsplit
          exact Utf8.not_splitAt_nil n hsplit
        · have hrow : keepLine (row, false) = row := by simp [keepLine, hcomment]
          rw [hrow] at hblank
          exact hcomment (isBlankOrComment_of_allBlank hblank)
    · intro hmem
      obtain ⟨⟨row, marked⟩, hrow, rfl⟩ := List.mem_map.mp hmem
      obtain ⟨hrow, rfl⟩ := List.mem_filter.mp hrow
      exact List.mem_map.mpr ⟨_, hrow, by simp [keepLine]⟩

/-- **An item has no text of its own when one of its blank lines splits.** -/
theorem itemText?_eq_none_iff {s : Scanned} {b : RuleBlock} :
    itemText? s.lines b = none ↔ b.Splits s := by
  have hcut : itemText? s.lines b = none ↔ ∃ line ∈ itemLines b.dash (linesOf s.lines b),
      Utf8.SplitAt (commonIndent (itemLines b.dash (linesOf s.lines b))) line := by
    simp only [← cutLine?_eq_none_iff, ← mapM_eq_none_iff]
    unfold itemText?
    cases hlines : (itemLines b.dash (linesOf s.lines b)).mapM
      (cutLine? (commonIndent (itemLines b.dash (linesOf s.lines b)))) <;> simp [hlines]
  rw [hcut, RuleBlock.Splits]
  constructor
  · rintro ⟨line, hline, hsplit⟩
    have hblank : allBlank line = true := by
      by_contra htext
      exact not_splitAt_commonIndent hline (by simpa using htext) hsplit
    exact ⟨line, (mem_exposedLines_iff hblank hsplit).mp hline, hblank, hsplit⟩
  · rintro ⟨line, hline, hblank, hsplit⟩
    exact ⟨line, (mem_exposedLines_iff hblank hsplit).mpr hline, hsplit⟩

/-! ## Cuts that fit -/

/-- The cuts of a scan that are made in every reading, and its indices, are all in place. -/
structure CutsFit (rows : List (List Char)) : Prop where
  /-- Each line has a mark, and a block scalar ends within the lines. -/
  marks : (scalarMarks rows).length = rows.length
  scalars : ∀ parent rest, scalarLength parent rest ≤ rest.length
  /-- A line, or what is left of it, is cut behind the spaces at its start. -/
  indents : ∀ line, Utf8.dropBytes? (indentOf line) line = some (unindented line)
  /-- An item has lines of the file, and its first line is cut behind its dash. -/
  items : ∀ g ∈ groups rows (scalarMarks rows), ∀ b ∈ g.blocks,
    1 ≤ b.lines.first ∧ b.lines.first ≤ b.lines.last ∧ b.lines.last ≤ rows.length ∧
      ∃ line, rows[b.lines.first - 1]? = some line ∧
        Utf8.dropBytes? (b.dash + 1) line = some (line.drop (b.dash + 1))

theorem drop_indentOf (line : List Char) : line.drop (indentOf line) = unindented line := by
  have hline : line.takeWhile (· = ' ') ++ unindented line = line := List.takeWhile_append_dropWhile
  calc line.drop (indentOf line)
      = (line.takeWhile (· = ' ') ++ unindented line).drop (indentOf line) := by rw [hline]
    _ = unindented line := List.drop_left

/-- A line that starts with a dash is cut behind it. -/
theorem dropBytes?_dash {line : List Char} (h : isListItem (unindented line) = true) :
    Utf8.dropBytes? (indentOf line + 1) line = some (line.drop (indentOf line + 1)) := by
  obtain ⟨rest, hrest⟩ : ∃ rest, unindented line = '-' :: rest := by
    unfold isListItem startsWith at h
    rcases Bool.or_eq_true_iff.mp h with hdash | hdash
    · exact ⟨[], by simpa using hdash⟩
    · obtain ⟨rest, hrest⟩ := Option.isSome_iff_exists.mp hdash
      exact ⟨' ' :: rest, dropWord?_eq_some_iff.mp hrest⟩
  have hline : line.takeWhile (· = ' ') ++ ['-'] ++ rest = line := by
    rw [List.append_assoc, List.singleton_append, ← hrest, unindented,
      List.takeWhile_append_dropWhile]
  have hone : ∀ c ∈ line.takeWhile (· = ' ') ++ ['-'], c.utf8Size = 1 := by
    rw [List.forall_mem_append, List.forall_mem_singleton]
    exact ⟨utf8Size_of_mem_indent line, rfl⟩
  have hlength : (line.takeWhile (· = ' ') ++ ['-']).length = indentOf line + 1 := by
    simp [indentOf]
  have hbytes := Utf8.dropBytes?_append hone rest
  have hchars : (line.takeWhile (· = ' ') ++ ['-'] ++ rest).drop
      (line.takeWhile (· = ' ') ++ ['-']).length = rest := List.drop_left
  rw [hlength, hline] at hbytes hchars
  rw [hbytes, hchars]

theorem cutsFit (rows : List (List Char)) : CutsFit rows where
  marks := length_scalarMarksFrom 0 rows
  scalars := scalarLength_le
  indents line := by
    rw [dropBytes?_of_le_indentOf (Nat.le_refl _), drop_indentOf]
  items g hg b hb := by
    obtain ⟨line, hline, hdash, hitem⟩ := groups_startIn rows _ g hg b hb
    have hspan : b.lines ∈ spansOf (groups rows (scalarMarks rows)) :=
      List.mem_flatMap.mpr ⟨g, hg, List.mem_cons_of_mem _ (List.mem_map_of_mem hb)⟩
    have hbounds := (groups_spaced rows (scalarMarks rows)).bounds _ hspan
    refine ⟨hbounds.1, b.lines.first_le_last, by omega, line, hline, ?_⟩
    rw [← hdash]
    exact dropBytes?_dash hitem

/-! ## Readings that break down -/

theorem salvage?_eq_none_iff {reader : YamlReader} {s : Scanned} :
    salvage? reader s = none ↔ ∃ g ∈ s.groups, ∃ b ∈ g.blocks, b.Splits s := by
  have hitem : ∀ b, salvageItem? reader s b = none ↔ b.Splits s := fun b => by
    rw [← itemText?_eq_none_iff]
    unfold salvageItem?
    cases itemText? s.lines b <;> simp
  have hall : salvage? reader s = none ↔
      (s.groups.flatMap RuleGroup.blocks).mapM (salvageItem? reader s) = none := by
    unfold salvage?
    cases (s.groups.flatMap RuleGroup.blocks).mapM (salvageItem? reader s) <;> simp
  rw [hall, mapM_eq_none_iff]
  simp only [hitem, List.mem_flatMap]
  constructor
  · rintro ⟨b, ⟨g, hg, hb⟩, hsplit⟩
    exact ⟨g, hg, b, hb, hsplit⟩
  · rintro ⟨g, hg, b, hb, hsplit⟩
    exact ⟨b, ⟨g, hg, hb⟩, hsplit⟩

theorem rulesOfText_eq_broken_iff {reader : YamlReader} {mode : ParseMode} {text : List Char} :
    rulesOfText reader mode text = .error none ↔
      mode = .lenient ∧ (∃ problem, readRules reader text = .error problem) ∧
        ∃ g ∈ (scan text).groups, ∃ b ∈ g.blocks, b.Splits (scan text) := by
  rw [← @salvage?_eq_none_iff reader]
  unfold rulesOfText
  cases hread : readRules reader text with
  | ok rules => simp
  | error problem =>
    cases mode with
    | strict => simp
    | lenient =>
      cases hsalvage : salvage? reader (scan text) <;> simp

/-- When a reading of a file breaks down, and what never makes it do so. -/
structure BreaksDown (reader : YamlReader) (sourcePath shownPath : String) (content : List UInt8)
    (mode : ParseMode) : Prop where
  /-- Only a lenient reading does, if the bytes are a text that cannot be read as a whole and one of
  its items splits. -/
  broken_iff : parseWith reader sourcePath shownPath content mode = .error .broken ↔
    mode = .lenient ∧ ∃ text, Utf8.decode content = .ok text ∧
      (∃ problem, readRules reader text = .error problem) ∧
      ∃ g ∈ (scan text).groups, ∃ b ∈ g.blocks, b.Splits (scan text)
  fit : ∀ text, Utf8.decode content = .ok text → CutsFit (lines text)

/-- **A reading breaks down where a blank line of an item splits**, and nowhere else. -/
theorem breaksDown (reader : YamlReader) (sourcePath shownPath : String) (content : List UInt8)
    (mode : ParseMode) : BreaksDown reader sourcePath shownPath content mode where
  broken_iff := by
    have hbytes : parseWith reader sourcePath shownPath content mode = .error .broken ↔
        rulesOfBytes reader mode content = .error none := by
      unfold parseWith
      cases rulesOfBytes reader mode content with
      | ok rules => simp
      | error problem? => cases problem? <;> simp
    rw [hbytes]
    unfold rulesOfBytes
    cases hdecode : Utf8.decode content with
    | ok text =>
      simp only [rulesOfText_eq_broken_iff, Except.ok.injEq, exists_eq_left']
    | error fault => cases mode <;> simp
  fit text _ := cutsFit (lines text)

/-- A file that is not YAML, with a wide space on a line of its own in a block scalar. -/
def wideSpaceFile : List UInt8 :=
  Utf8.encode "rules:\n- alert: |\n    a\n\u3000\n    b\n  expr: [\n".toList

/-- The item of that file splits. -/
theorem broken_wideSpaceFile : parse "a.yml" "a.yml" wideSpaceFile .lenient = .error .broken := by
  cbv

end RuleDelta.RuleFile

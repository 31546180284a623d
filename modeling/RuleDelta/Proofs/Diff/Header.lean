import RuleDelta.Proofs.Diff.Unified
import RuleDelta.Proofs.Text.Numeral
import RuleDelta.Proofs.Text.Split

/-!
# Header lines are read back

Each header row of a diff, as it is written, moves a cursor outside a hunk the way it should: the
header of a hunk gives back its spans (`readHunk?_hunkRow`), the name of the new side gives back its
path (`readHeader_newNameRow`), and the other rows lead into no hunk.
-/

namespace RuleDelta.Diff

open Text

/-! ## The header of a hunk -/

theorem not_mem_spanText {c : Char} (hdigit : c.isDigit = false) (hcomma : c ≠ ',')
    (before length : Nat) (short : Bool) : c ∉ spanText before length short := by
  have hnot := not_mem_toDigits hdigit
  unfold spanText
  split <;> simp [hnot, hcomma]

theorem readSpan?_spanText {before length : Nat} (h : before + length ≤ wordMax) (short : Bool) :
    readSpan? (spanText before length short) = some (spanStart before length, length) := by
  have hcomma := not_mem_toDigits (c := ',') (by decide)
  have hstart : word? (Nat.toDigits 10 (spanStart before length)) =
      some (spanStart before length) := by
    rw [word?_toDigits, if_pos]
    unfold spanStart
    split <;> omega
  have hlength : word? (Nat.toDigits 10 length) = some length := by
    rw [word?_toDigits, if_pos]
    omega
  unfold spanText
  by_cases hshort : (short && length == 1) = true
  · obtain ⟨-, rfl⟩ : short = true ∧ length = 1 := by simpa using hshort
    rw [if_pos hshort, List.append_nil, readSpan?, splitFirst?_eq_none (hcomma _)]
    simp [hstart]
  · rw [if_neg hshort, readSpan?, splitFirst?_char (hcomma _)]
    simp [hstart, hlength]

/-- The row as it is taken apart. -/
theorem hunkRow_eq (old new heading : List Char) : hunkRow old new heading =
    "@@ ".toList ++ (('-' :: old ++ ' ' :: '+' :: new) ++ (" @@".toList ++ heading)) := by
  change ["@@ -".toList, old, " +".toList, new, " @@".toList, heading].flatten = _
  simp

/-- The spans of a hunk are read back, whatever stands behind them. -/
theorem readHunk?_hunkRow {old new : List Char} {oldSpan newSpan : Nat × Nat}
    (hold : readSpan? old = some oldSpan) (hnew : readSpan? new = some newSpan)
    (holdSpace : ' ' ∉ old) (holdAt : '@' ∉ old) (hnewAt : '@' ∉ new) (heading : List Char) :
    readHunk? (hunkRow old new heading) = some ⟨oldSpan.2, newSpan.1, newSpan.2⟩ := by
  have hword : " @@".toList = [' ', '@', '@'] := rfl
  have hspans : splitFirst? " @@".toList
      (('-' :: old ++ ' ' :: '+' :: new) ++ (" @@".toList ++ heading)) =
        some ('-' :: old ++ ' ' :: '+' :: new, heading) := by
    rw [hword]
    exact splitFirst?_word (by decide) (by simp [holdAt, hnewAt]) heading
  have hsides : splitFirst? [' '] ('-' :: old ++ ' ' :: '+' :: new) =
      some ('-' :: old, '+' :: new) :=
    splitFirst?_char (by simp [holdSpace]) _
  have htrim : trimStart ('+' :: new) = '+' :: new := List.dropWhile_cons_of_neg (by decide)
  have hminus : dropWord? ['-'] ('-' :: old) = some old := dropWord?_append ['-'] old
  have hplus : dropWord? ['+'] ('+' :: new) = some new := dropWord?_append ['+'] new
  rw [hunkRow_eq, readHunk?, dropWord?_append, Option.bind_eq_bind, Option.bind_some, hspans]
  simp only [Option.bind_eq_bind, Option.bind_some, hsides, htrim, hminus, hplus, hold, hnew,
    Option.pure_def]

theorem dropReturn_headerRow (x : Excerpt) (old new : Nat) :
    dropReturn (x.headerRow old new) =
      hunkRow (spanText (old + oldLength x.hidden.edits) (oldLength x.shown) x.oldShort)
        (spanText (new + newLength x.hidden.edits) (newLength x.shown) x.newShort)
        (dropReturn x.heading.chars) := by
  have hnot := not_mem_spanText (c := '\r') (by decide) (by decide)
  rw [Excerpt.headerRow, hunkRow_eq, hunkRow_eq]
  simp only [← List.append_assoc]
  exact dropReturn_append (by simp [hnot]) _

theorem readHunk?_headerRow (x : Excerpt) {old new : Nat}
    (hold : old + oldLength x.edits ≤ wordMax) (hnew : new + newLength x.edits ≤ wordMax) :
    readHunk? (dropReturn (x.headerRow old new)) =
      some ⟨oldLength x.shown,
        spanStart (new + newLength x.hidden.edits) (newLength x.shown), newLength x.shown⟩ := by
  have hspace := not_mem_spanText (c := ' ') (by decide) (by decide)
  have hat := not_mem_spanText (c := '@') (by decide) (by decide)
  simp only [Excerpt.edits, oldLength, newLength, List.countP_append, ← Nat.add_assoc] at hold hnew
  rw [dropReturn_headerRow]
  exact readHunk?_hunkRow (readSpan?_spanText hold _) (readSpan?_spanText hnew _) (hspace _ _ _)
    (hat _ _ _) (hat _ _ _) _

/-! ## Rows outside a hunk -/

theorem FileDiff.openingRow_eq (f : FileDiff) : f.openingRow = "diff --git ".toList ++
    ("a/".toList ++ f.oldPath.chars ++ " b/".toList ++ f.newPath.chars) := by
  -- the equation of the definition would make Lean evaluate the words
  change ["diff --git a/".toList, f.oldPath.chars, " b/".toList, f.newPath.chars].flatten = _
  simp

namespace Cursor

/-- A row that opens none of the headers changes nothing. -/
theorem readHeader_eq_self (front : List Char)
    (h : ∀ word ∈ ["diff --git ".toList, "+++ ".toList, "@@ ".toList],
      (word.zip front).any (fun p => p.1 != p.2) = true) (c : Cursor) (rest : List Char) :
    c.readHeader (front ++ rest) = c := by
  have hnone := fun word hword => dropWord?_append_eq_none (h word hword) rest
  have hhunk : readHunk? (front ++ rest) = none := by
    rw [readHunk?, hnone "@@ ".toList (by simp)]
    rfl
  simp only [readHeader, hnone "diff --git ".toList (by simp), hnone "+++ ".toList (by simp), hhunk]

theorem readHeader_hunkRow {old new heading : List Char} {hunk : Hunk}
    (h : readHunk? (hunkRow old new heading) = some hunk) (c : Cursor) :
    c.readHeader (hunkRow old new heading) =
      { c with line := hunk.newStart, oldLeft := hunk.oldLength, newLeft := hunk.newLength } := by
  have hgit : dropWord? "diff --git ".toList (hunkRow old new heading) = none := by
    rw [hunkRow_eq]
    exact dropWord?_append_eq_none (by decide) _
  have hname : dropWord? "+++ ".toList (hunkRow old new heading) = none := by
    rw [hunkRow_eq]
    exact dropWord?_append_eq_none (by decide) _
  simp only [readHeader, hgit, hname, h]

/-- The row that opens a file leaves a cursor outside a hunk where it is. -/
theorem readHeader_openingRow (c : Cursor) (f : FileDiff) :
    ∃ file, c.readHeader (dropReturn f.openingRow) = { c with file := file, line := 0 } := by
  rw [f.openingRow_eq, dropReturn_append (by decide), readHeader, dropWord?_append]
  exact ⟨_, rfl⟩

theorem readHeader_extended (c : Cursor) (h : ExtendedHeader) :
    c.readHeader (dropReturn h.row) = c := by
  have hreturn : ∀ keyword ∈ headerKeywords, '\r' ∉ keyword := by decide
  have hdiffers : ∀ keyword ∈ headerKeywords,
      ∀ word ∈ ["diff --git ".toList, "+++ ".toList, "@@ ".toList],
        (word.zip keyword).any (fun p => p.1 != p.2) = true := by decide
  rw [ExtendedHeader.row, dropReturn_append (hreturn _ h.known)]
  exact readHeader_eq_self _ (hdiffers _ h.known) c _

theorem readHeader_unendedRow (c : Cursor) : c.readHeader unendedRow = c := by
  have h := readHeader_eq_self unendedRow (by decide) c []
  rwa [List.append_nil] at h

theorem readHeader_oldNameRow (c : Cursor) (f : FileDiff) :
    c.readHeader (dropReturn f.oldNameRow) = c := by
  rw [FileDiff.oldNameRow, dropReturn_append (by decide)]
  exact readHeader_eq_self "--- ".toList (by decide) c _

end Cursor

/-! ## The name of the new side -/

namespace PlainPath

theorem not_mem {c : Char} (h : isPlain c = false) (p : PlainPath) : c ∉ p.chars := by
  intro hmem
  have := p.plain c hmem
  simp [h] at this

/-- A plain path is read as it is written. -/
theorem unquote_append (front : List Char) (hne : front ≠ []) (hfront : '\\' ∉ front)
    (hquote : '"' ∉ front) (p : PlainPath) :
    Path.unquote (front ++ p.chars) = front ++ p.chars := by
  have hquotes : Path.inQuotes? (front ++ p.chars) = none := by
    obtain ⟨c, cs, rfl⟩ := List.exists_cons_of_ne_nil hne
    have hc : '"' ≠ c := by
      rintro rfl
      exact hquote List.mem_cons_self
    rw [List.cons_append, Path.inQuotes?, dropWord?_of_head_ne hc]
    rfl
  have hnormal : Path.normalize (front ++ p.chars) = front ++ p.chars := by
    refine (List.map_congr_left fun c hc => ?_).trans (List.map_id _)
    have hne : c ≠ '\\' := by
      rintro rfl
      rcases List.mem_append.mp hc with hc | hc
      · exact hfront hc
      · exact p.not_mem (by decide) hc
    simp [hne]
  simp only [Path.unquote, hquotes, hnormal]

end PlainPath

/-- **The name of the new side is read back.** A file that is deleted has none. -/
theorem Cursor.readHeader_newNameRow (c : Cursor) (f : FileDiff) :
    c.readHeader (dropReturn f.newNameRow) =
      { c with file := if f.deleted then none else some f.newPath.chars } := by
  have hreturn := f.newPath.not_mem (c := '\r') (by decide)
  have hunquote := f.newPath.unquote_append "b/".toList (by decide) (by decide) (by decide)
  have hgit : ∀ rest, dropWord? "diff --git ".toList ("+++ ".toList ++ rest) = none :=
    dropWord?_append_eq_none (by decide)
  unfold FileDiff.newNameRow
  cases f.deleted with
  | true =>
    rw [if_pos rfl, dropReturn_eq_self (by decide), readHeader, hgit, dropWord?_append]
    rfl
  | false =>
    have hnull : "b/".toList ++ f.newPath.chars ≠ "/dev/null".toList := by
      intro heq
      have := congrArg List.head? heq
      simp at this
    rw [if_neg Bool.false_ne_true, dropReturn_eq_self (by simp [hreturn]), readHeader, hgit,
      dropWord?_append]
    simp only [hnull, if_false, hunquote, dropWord?_append]
    rfl

end RuleDelta.Diff

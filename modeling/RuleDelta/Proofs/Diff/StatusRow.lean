import RuleDelta.Proofs.Diff.Listing

/-!
# Rows of a listing by their meaning

Each changed file is a row of a listing: the letter of its status, for some a score, and one or two
paths between tabs. The row says what the file is (`readLine?_text`). In the last row of a listing
the blanks at the end of the last path are lost, unless the path is in quotes; a listing whose last
path is blank cannot be read (`readListing_listing`).

* `StatusRow` is a changed file with its score, and `StatusRow.text` its row;
* `StatusRow.asLast` is what the file becomes in the last row.
-/

namespace RuleDelta

open Text

namespace ChangedFile

/-- The letter of the status. -/
def letter : ChangedFile → Char
  | added _ => 'A'
  | modified _ => 'M'
  | typeChanged _ => 'T'
  | deleted _ => 'D'
  | renamed _ _ => 'R'
  | copied _ _ => 'C'

/-- The first of two paths. -/
def first? : ChangedFile → Option String
  | renamed source _ | copied source _ => some source
  | added _ | modified _ | typeChanged _ | deleted _ => none

/-- The last path of the row. -/
def last : ChangedFile → String
  | added path | modified path | typeChanged path | deleted path => path
  | renamed _ target | copied _ target => target

/-- The file with another last path. -/
def withLast (path : String) : ChangedFile → ChangedFile
  | added _ => added path
  | modified _ => modified path
  | typeChanged _ => typeChanged path
  | deleted _ => deleted path
  | renamed source _ => renamed source path
  | copied source _ => copied source path

/-- The last path is the new one, if there is one. -/
theorem last_eq (file : ChangedFile) : file.after?.or file.before? = some file.last := by
  cases file <;> rfl

theorem withLast_last (file : ChangedFile) : file.withLast file.last = file := by
  cases file <;> rfl

theorem withLast_eq_self_iff {file : ChangedFile} {path : String} :
    file.withLast path = file ↔ path = file.last := by
  cases file <;> simp [withLast, last]

theorem isBlank_letter (file : ChangedFile) : isBlank file.letter = false := by
  cases file <;> rfl

theorem ofFields?_letter (file : ChangedFile) (path : String) :
    ofFields? file.letter (file.first?.getD path) (file.first?.map fun _ => path) =
      some (file.withLast path) := by
  cases file <;> rfl

/-- A file with two paths is not told by one of them. -/
theorem ofFields?_letter_none {file : ChangedFile} {first : String}
    (h : file.first? = some first) (path : String) : ofFields? file.letter path none = none := by
  cases file <;> first | rfl | cases h

end ChangedFile

/-- A changed file as it stands in a listing. -/
structure StatusRow where
  file : ChangedFile
  /-- What stands behind the letter of the status: how alike the two files are, in digits. -/
  score : List Char
  digits : ∀ c ∈ score, c.isDigit = true
  /-- No path is empty or has a zero character. -/
  paths : ∀ path, file.first? = some path ∨ path = file.last →
    path ≠ "" ∧ Char.ofNat 0 ∉ path.toList

namespace StatusRow

/-- A path as a row has it. -/
def shown (path : String) : List Char :=
  Path.printed false path.toList

/-- The status of the file with its score. -/
def status (row : StatusRow) : List Char :=
  row.file.letter :: row.score

/-- What stands in front of the last path and its tab. -/
def stem (row : StatusRow) : List Char :=
  match row.file.first? with
  | some path => row.status ++ '\t' :: shown path
  | none => row.status

/-- The row of the file. -/
def text (row : StatusRow) : List Char :=
  row.stem ++ '\t' :: shown row.file.last

/-- The last path of the file is in quotes. -/
def isQuoted (row : StatusRow) : Bool :=
  Path.needsQuotes false row.file.last.toList

/-- The file of the last row: what is left of its last path, unless that is in quotes. -/
def asLast (row : StatusRow) : ChangedFile :=
  if row.isQuoted then row.file
  else row.file.withLast (String.ofList (trimEnd row.file.last.toList))

/-- Nothing is left of the last path. -/
def isLost (row : StatusRow) : Bool :=
  allBlank (shown row.file.last)

/-- The listing of some files. -/
def listing (rows : List StatusRow) : List Char :=
  unlines (rows.map text)

/-! ## Reading a row -/

theorem not_mem_shown {c : Char} (h : c.toNat < 0x20) (path : String) : c ∉ shown path := by
  intro hmem
  have := Path.le_of_mem_printed c hmem
  omega

theorem isBlank_of_isDigit {c : Char} (h : c.isDigit = true) : isBlank c = false := by
  have hrange : 48 ≤ c.toNat ∧ c.toNat ≤ 57 := by
    simpa [Char.isDigit, UInt32.le_iff_toNat_le] using h
  simp only [isBlank, Bool.or_eq_false_iff, Bool.and_eq_false_imp, decide_eq_true_eq,
    decide_eq_false_iff_not, beq_eq_false_iff_ne]
  omega

theorem isBlank_of_mem_status (row : StatusRow) : ∀ c ∈ row.status, isBlank c = false := by
  rw [status, List.forall_mem_cons]
  exact ⟨row.file.isBlank_letter, fun c hc => isBlank_of_isDigit (row.digits c hc)⟩

theorem not_mem_status {c : Char} (hblank : isBlank c = true) (row : StatusRow) :
    c ∉ row.status := fun hmem => by
  rw [row.isBlank_of_mem_status c hmem] at hblank
  cases hblank

theorem trimEnd_status (row : StatusRow) : trimEnd row.status = row.status := by
  obtain ⟨front, c, hstatus⟩ := List.eq_nil_or_concat row.status |>.resolve_left (by simp [status])
  have hc : isBlank c = false := row.isBlank_of_mem_status c (by simp [hstatus])
  rw [hstatus, List.concat_eq_append, trimEnd_concat hc]

/-- A row is read whatever stands for its last path. -/
theorem readLine?_stem (row : StatusRow) {path : List Char} (h : '\t' ∉ path) :
    ChangedFile.readLine? (row.stem ++ '\t' :: path) =
      some (row.file.withLast (String.ofList (Path.unquote path))) := by
  have hstatus : '\t' ∉ row.status := row.not_mem_status (by decide)
  rw [← row.file.ofFields?_letter, stem]
  cases hfirst : row.file.first? with
  | none =>
    rw [ChangedFile.readLine?, splitAt_append hstatus, splitAt_eq_singleton h]
    rfl
  | some first =>
    have hshown : '\t' ∉ shown first := not_mem_shown (by decide) first
    have hread : ChangedFile.readPath (shown first) = first := by
      rw [ChangedFile.readPath, shown, Path.unquote_printed, String.ofList_toList]
    simp only [List.append_assoc, List.cons_append]
    rw [ChangedFile.readLine?, splitAt_append hstatus, splitAt_append hshown,
      splitAt_eq_singleton h]
    change ChangedFile.ofFields? row.file.letter (ChangedFile.readPath (shown first)) _ = _
    rw [hread]
    rfl

/-- **A row says what the file is.** -/
theorem readLine?_text (row : StatusRow) : ChangedFile.readLine? row.text = some row.file := by
  rw [text, row.readLine?_stem (not_mem_shown (by decide) _), shown, Path.unquote_printed,
    String.ofList_toList, ChangedFile.withLast_last]

/-- A row without its last path is not read. -/
theorem readLine?_trimEnd_stem (row : StatusRow) :
    ChangedFile.readLine? (trimEnd row.stem) = none := by
  have hstatus : '\t' ∉ row.status := row.not_mem_status (by decide)
  have halone : ChangedFile.readLine? row.status = none := by
    rw [ChangedFile.readLine?, splitAt_eq_singleton hstatus]
    rfl
  rw [stem]
  cases hfirst : row.file.first? with
  | none => rw [row.trimEnd_status, halone]
  | some first =>
    change ChangedFile.readLine? (trimEnd (row.status ++ '\t' :: shown first)) = none
    rw [trimEnd_append_cons (by decide)]
    split
    · rw [row.trimEnd_status, halone]
    · have hshown : '\t' ∉ trimEnd (shown first) := fun hmem =>
        not_mem_shown (by decide) first (mem_of_mem_trimEnd hmem)
      rw [ChangedFile.readLine?, splitAt_append hstatus, splitAt_eq_singleton hshown]
      exact ChangedFile.ofFields?_letter_none hfirst _

/-- A row holds no blank that ends a line. -/
theorem not_mem_text {c : Char} (h : c.toNat < 0x20) (hblank : isBlank c = true)
    (htab : c ≠ '\t') (row : StatusRow) : c ∉ row.text := by
  have hstatus := row.not_mem_status hblank
  have hstem : c ∉ row.stem := by
    rw [stem]
    cases row.file.first? with
    | none => exact hstatus
    | some first =>
      simp only [List.mem_append, List.mem_cons, not_or]
      exact ⟨hstatus, htab, not_mem_shown h first⟩
  simp only [text, List.mem_append, List.mem_cons, not_or]
  exact ⟨hstem, htab, not_mem_shown h _⟩

theorem isRow (row : StatusRow) : Diff.ListingRow row.text where
  unbroken := row.not_mem_text (by decide) (by decide) (by decide)
  unreturned := row.not_mem_text (by decide) (by decide) (by decide)
  visible := by
    refine ⟨row.file.letter, row.text.tail, ?_, row.file.isBlank_letter⟩
    rw [text, stem]
    split <;> rfl

/-! ## Reading a listing -/

/-- The last row keeps its file if the last path is in quotes or ends with a visible character. -/
theorem asLast_eq_file_iff {row : StatusRow} : row.asLast = row.file ↔
    row.isQuoted = true ∨ trimEnd row.file.last.toList = row.file.last.toList := by
  unfold asLast
  by_cases hquoted : row.isQuoted = true
  · simp [hquoted]
  · rw [if_neg hquoted, ChangedFile.withLast_eq_self_iff, or_iff_right hquoted,
      ← String.toList_inj, String.toList_ofList]

/-- The last row of a listing: what is read of it. -/
theorem readLine?_trimEnd_text (row : StatusRow) : ChangedFile.readLine? (trimEnd row.text) =
    if row.isLost then none else some row.asLast := by
  rw [text, isLost, trimEnd_append_cons (by decide)]
  split
  · exact row.readLine?_trimEnd_stem
  · have hnot : '\t' ∉ trimEnd (shown row.file.last) := fun hmem =>
      not_mem_shown (by decide) _ (mem_of_mem_trimEnd hmem)
    rw [row.readLine?_stem hnot, shown, Diff.unquote_trimEnd_printed, asLast, isQuoted]
    split
    · rw [String.ofList_toList, ChangedFile.withLast_last]
    · rfl

theorem lines_listing (front : List StatusRow) (last : StatusRow) :
    lines (Diff.outputOf (listing (front ++ [last]))).stdout =
      front.map text ++ [trimEnd last.text] := by
  rw [listing, List.map_append, List.map_singleton]
  refine Diff.lines_stdout (fun row hrow => ?_) last.isRow
  obtain ⟨row, -, rfl⟩ := List.mem_map.mp hrow
  exact row.isRow

/-- Results that are all there but for the last are not collected. -/
theorem mapM_concat_error {α β ε : Type} {f : α → Except ε β} {xs : List α} {x : α} {e : ε}
    (ys : List β) (hxs : xs.map f = ys.map .ok) (hx : f x = .error e) :
    (xs ++ [x]).mapM f = .error e := by
  rw [List.mapM_append, (Diff.mapM_eq_ok_iff f).mpr hxs]
  simp [hx, bind, Except.bind]

/-- **A listing is read as its files**, but for the blanks at the end of its last path. If nothing
is left of that path, the last row is the one that cannot be read. -/
theorem readListing_listing (front : List StatusRow) (last : StatusRow) :
    ChangedFile.readListing (Diff.outputOf (listing (front ++ [last]))).stdout =
      if last.isLost then .error (trimEnd last.text)
      else .ok (front.map file ++ [last.asLast]) := by
  have hlines := lines_listing front last
  have hvisible : ∀ line ∈ lines (Diff.outputOf (listing (front ++ [last]))).stdout,
      allBlank line = false := by
    rw [hlines, List.forall_mem_append, List.forall_mem_map, List.forall_mem_singleton]
    exact ⟨fun row _ => row.isRow.allBlank_eq_false, last.isRow.trimEnd.allBlank_eq_false⟩
  have hlast := last.readLine?_trimEnd_text
  split
  · rename_i hlost
    rw [if_pos hlost] at hlast
    have hfilter : (lines (Diff.outputOf (listing (front ++ [last]))).stdout).filter
        (fun line => !allBlank line) = front.map text ++ [trimEnd last.text] := by
      rw [← hlines]
      exact List.filter_eq_self.mpr fun line hline => by simp [hvisible line hline]
    rw [ChangedFile.readListing, hfilter]
    refine mapM_concat_error (front.map file) ?_ (by rw [hlast])
    simp [readLine?_text, Function.comp_def]
  · rename_i hkept
    rw [if_neg hkept] at hlast
    rw [Diff.readListing_eq_ok_iff hvisible, hlines]
    simp [hlast, readLine?_text, Function.comp_def]

end StatusRow

end RuleDelta

import RuleDelta.Proofs.Diff.StatusRow
import RuleDelta.Proofs.Text.Split

/-!
# Listings are read as a whole or refused

A listing has a row for each changed file, and blank lines anywhere between them. What is read of it
are its files in their order. Any other text is refused if one of its lines that are not blank is
faulty: it has no status, or not as many paths as its status asks for.

* `ListingLine` is a line of a listing, and `ListingLine.listing` the text of some lines;
* `Faulty` says what is wrong with a line, and `readLine?_eq_none_iff` that such lines are those
  that describe no file;
* `AllOrNothing` says when a text is refused and for which line, and `readFiles_listing` is the main
  result.
-/

namespace RuleDelta

open Text

namespace ChangedFile

/-- The paths of a row. -/
def names (file : ChangedFile) : List String :=
  file.first?.toList ++ [file.last]

/-- The fields of a row: the status, with the score of the file behind its letter, and the paths as
they are printed. -/
def fields (wide : Bool) (score : List Char) (file : ChangedFile) : List (List Char) :=
  (file.letter :: score) :: file.names.map fun name => Path.printed wide name.toList

end ChangedFile

/-! ## Lines of a listing -/

/-- A line of a listing: the row of a file, or blanks only. -/
inductive ListingLine
  /-- The score is written with digits. -/
  | row (file : ChangedFile) (score : List Char) (digits : ∀ c ∈ score, c.isDigit = true)
    (wide : Bool)
  | blank (blanks : List Char) (allBlank : allBlank blanks = true) (unbroken : '\n' ∉ blanks)

namespace ListingLine

/-- The text of a line. -/
def text : ListingLine → List Char
  | row file score _ wide => ['\t'].intercalate (file.fields wide score)
  | blank blanks _ _ => blanks

/-- The file of a line. -/
def file? : ListingLine → Option ChangedFile
  | row file _ _ _ => some file
  | blank _ _ _ => none

/-- The listing of some lines, with a line feed between any two. If its last line has a line feed
too, an empty line stands behind it. -/
def listing (rows : List ListingLine) : List Char :=
  ['\n'].intercalate (rows.map text)

/-- The fields of a row hold no control characters. -/
theorem not_mem_fields {c : Char} (h : c.toNat < 0x20) (hblank : isBlank c = true)
    (file : ChangedFile) {score : List Char} (digits : ∀ c ∈ score, c.isDigit = true)
    (wide : Bool) : ∀ field ∈ file.fields wide score, c ∉ field := by
  rw [ChangedFile.fields, List.forall_mem_cons, List.forall_mem_map]
  constructor
  · rintro hmem
    rcases List.mem_cons.mp hmem with rfl | hmem
    · rw [file.isBlank_letter] at hblank
      cases hblank
    · rw [StatusRow.isBlank_of_isDigit (digits c hmem)] at hblank
      cases hblank
  · intro name _ hmem
    have := Path.le_of_mem_printed c hmem
    omega

/-- **A row says what the file is.** -/
theorem readLine?_row (file : ChangedFile) {score : List Char}
    (digits : ∀ c ∈ score, c.isDigit = true) (wide : Bool) :
    ChangedFile.readLine? (['\t'].intercalate (file.fields wide score)) = some file := by
  have hread (name : String) : ChangedFile.readPath (Path.printed wide name.toList) = name := by
    rw [ChangedFile.readPath, Path.unquote_printed, String.ofList_toList]
  have hne : file.fields wide score ≠ [] := List.cons_ne_nil _ _
  rw [ChangedFile.readLine?,
    splitAt_intercalate hne (not_mem_fields (by decide) (by decide) file digits wide)]
  cases file <;>
    simp [ChangedFile.fields, ChangedFile.names, ChangedFile.first?, ChangedFile.last,
      ChangedFile.letter, ChangedFile.ofFields?, hread]

end ListingLine

/-! ## Faulty lines -/

/-- What is wrong with a line that describes no file. Its paths stand behind tabs. -/
inductive Faulty (line : List Char) : Prop
  /-- The line does not start with the letter of a status. -/
  | status (h : ∀ letter ∈ "AMTDRC".toList, line.head? ≠ some letter)
  /-- It has no path. -/
  | noPath (h : line.count '\t' = 0)
  /-- It has two paths and the status of a file with one. -/
  | twoPaths (hstatus : ∃ letter ∈ "AMTD".toList, line.head? = some letter)
    (h : 2 ≤ line.count '\t')
  /-- It lacks the second path of a file with two. -/
  | onePath (hstatus : ∃ letter ∈ "RC".toList, line.head? = some letter)
    (h : line.count '\t' < 2)

/-- The first character of a line and its number of tabs tell whether it is faulty. -/
theorem faulty_cons_iff {letter : Char} {line : List Char} : Faulty (letter :: line) ↔
    letter ∉ "AMTDRC".toList ∨ (letter :: line).count '\t' = 0 ∨
      (letter ∈ "AMTD".toList ∧ 2 ≤ (letter :: line).count '\t') ∨
      (letter ∈ "RC".toList ∧ (letter :: line).count '\t' < 2) := by
  constructor
  · rintro (h | h | ⟨⟨_, hmem, ⟨⟩⟩, h⟩ | ⟨⟨_, hmem, ⟨⟩⟩, h⟩)
    · exact .inl fun hmem => h letter hmem rfl
    · exact .inr (.inl h)
    · exact .inr (.inr (.inl ⟨hmem, h⟩))
    · exact .inr (.inr (.inr ⟨hmem, h⟩))
  · rintro (h | h | ⟨hmem, h⟩ | ⟨hmem, h⟩)
    · refine .status ?_
      rintro _ hmem ⟨⟩
      exact h hmem
    · exact .noPath h
    · exact .twoPaths ⟨letter, hmem, rfl⟩ h
    · exact .onePath ⟨letter, hmem, rfl⟩ h

theorem ofFields?_eq_none_iff {letter : Char} {first : String} {second? : Option String} :
    ChangedFile.ofFields? letter first second? = none ↔ letter ∉ "AMTDRC".toList ∨
      (letter ∈ "AMTD".toList ∧ second?.isSome) ∨ (letter ∈ "RC".toList ∧ second? = none) := by
  unfold ChangedFile.ofFields?
  split
  case h_7 hadded hmodified htype hdeleted hrenamed hcopied =>
    refine iff_of_true rfl ?_
    cases second? with
    | none =>
      by_cases htwo : letter ∈ "RC".toList
      · exact .inr (.inr ⟨htwo, rfl⟩)
      · simp_all
    | some second =>
      by_cases hone : letter ∈ "AMTD".toList
      · exact .inr (.inl ⟨hone, rfl⟩)
      · simp_all
  all_goals simp

/-- **A line describes no file exactly when it is faulty.** -/
theorem readLine?_eq_none_iff {line : List Char} :
    ChangedFile.readLine? line = none ↔ Faulty line := by
  cases line with
  | nil => exact iff_of_true rfl (.noPath rfl)
  | cons letter line =>
    by_cases htab : letter = '\t'
    · rw [htab, faulty_cons_iff, ChangedFile.readLine?, splitAt_cons_self]
      exact iff_of_true rfl (.inl (by decide))
    · obtain ⟨part, parts, hline, hsplit⟩ := splitAt_cons_of_ne htab line
      have hcount : parts.length = (letter :: line).count '\t' := by
        have hlength := length_splitAt '\t' (letter :: line)
        rw [hsplit, List.length_cons] at hlength
        omega
      rw [faulty_cons_iff, ChangedFile.readLine?, hsplit, ← hcount]
      cases parts with
      | nil => exact iff_of_true rfl (.inr (.inl rfl))
      | cons first rest =>
        change ChangedFile.ofFields? letter _ _ = none ↔ _
        rw [ofFields?_eq_none_iff]
        cases rest with
        | nil => simp
        | cons second more =>
          have hmany : ¬more.length + 1 + 1 < 2 := by omega
          simp [hmany]

/-! ## Visible lines -/

/-- A blank row stays blank without its carriage return, and a row without one stays as it is. -/
theorem filter_dropReturn {row : List Char} (h : allBlank row = true ∨ '\r' ∉ row) :
    [dropReturn row].filter (fun line => !allBlank line) =
      [row].filter fun line => !allBlank line := by
  rcases h with hblank | hreturn
  · have hdrop : allBlank (dropReturn row) = true := by
      unfold dropReturn
      split
      · exact List.all_eq_true.mpr fun c hc =>
          List.all_eq_true.mp hblank c (List.dropLast_subset row hc)
      · exact hblank
    simp [hblank, hdrop]
  · rw [dropReturn_eq_self hreturn]

/-- Rows between line feeds are lines, as far as they are visible. -/
theorem visibleLines_intercalate {rows : List (List Char)}
    (h : ∀ row ∈ rows, '\n' ∉ row ∧ (allBlank row = true ∨ '\r' ∉ row)) :
    Diff.visibleLines (['\n'].intercalate rows) = rows.filter fun line => !allBlank line := by
  unfold Diff.visibleLines
  induction rows with
  | nil => rfl
  | cons row rows ih =>
    obtain ⟨⟨hfeed, hreturn⟩, hrows⟩ := List.forall_mem_cons.mp h
    cases rows with
    | nil =>
      rw [List.intercalate_singleton]
      by_cases hrow : row = []
      · rw [hrow]
        rfl
      · rw [lines_eq_singleton hrow hfeed]
    | cons next rows =>
      have hunlines : row ++ ['\n'] = unlines [row] := by simp [unlines]
      rw [List.intercalate_cons_cons, hunlines, lines_unlines_append (by simpa using hfeed),
        List.filter_append, ih hrows, List.map_singleton, filter_dropReturn hreturn,
        ← List.filter_append, List.singleton_append]

namespace ListingLine

/-- A row of a file holds no blank but the tabs between its fields. -/
theorem not_mem_row {c : Char} (h : c.toNat < 0x20) (hblank : isBlank c = true) (htab : c ≠ '\t')
    (file : ChangedFile) {score : List Char} (digits : ∀ c ∈ score, c.isDigit = true)
    (wide : Bool) : c ∉ (row file score digits wide).text :=
  not_mem_intercalate (by simpa using htab) (not_mem_fields h hblank file digits wide)

theorem allBlank_row (file : ChangedFile) {score : List Char}
    (digits : ∀ c ∈ score, c.isDigit = true) (wide : Bool) :
    Text.allBlank (row file score digits wide).text = false := by
  have hhead : ∃ rest, (row file score digits wide).text = file.letter :: rest := by
    obtain ⟨name, names, hnames⟩ : ∃ name names, file.names = name :: names := by
      cases file <;> exact ⟨_, _, rfl⟩
    refine ⟨score ++ '\t' :: ['\t'].intercalate
      ((name :: names).map fun name => Path.printed wide name.toList), ?_⟩
    rw [text, ChangedFile.fields, hnames, List.map_cons, List.intercalate_cons_cons]
    simp
  obtain ⟨rest, hrest⟩ := hhead
  rw [hrest, Text.allBlank, List.all_cons, file.isBlank_letter, Bool.false_and]

/-- The visible lines of a listing describe its files. -/
theorem map_readLine?_visible (rows : List ListingLine) :
    (Diff.visibleLines (listing rows)).map ChangedFile.readLine? =
      (rows.filterMap file?).map some := by
  have hrow : ∀ line ∈ rows.map text, '\n' ∉ line ∧ (Text.allBlank line = true ∨ '\r' ∉ line) := by
    rw [List.forall_mem_map]
    rintro (⟨file, score, digits, wide⟩ | ⟨blanks, hblank, hfeed⟩) -
    · exact ⟨not_mem_row (by decide) (by decide) (by decide) file digits wide,
        .inr (not_mem_row (by decide) (by decide) (by decide) file digits wide)⟩
    · exact ⟨hfeed, .inl hblank⟩
  rw [listing, visibleLines_intercalate hrow]
  clear hrow
  induction rows with
  | nil => rfl
  | cons line rows ih =>
    cases line with
    | row file score digits wide =>
      rw [List.map_cons, List.filter_cons_of_pos (by simp [allBlank_row]), List.map_cons, ih]
      exact congrArg (· :: _) (readLine?_row file digits wide)
    | blank blanks hblank hfeed =>
      rw [List.map_cons, List.filter_cons_of_neg (by simpa [text] using hblank), ih]
      rfl

end ListingLine

/-! ## Texts -/

/-- A line that makes a text unreadable. -/
def Unreadable (line : List Char) : Prop :=
  allBlank line = false ∧ Faulty line

/-- The first line that makes a text unreadable. -/
def FirstUnreadable (text line : List Char) : Prop :=
  ∃ front back, lines text = front ++ line :: back ∧ Unreadable line ∧
    ∀ other ∈ front, ¬Unreadable other

/-- The error of a text with such a line. -/
def unexpectedLine (line : List Char) : Error :=
  .changeList s!"unexpected name-status line: '{String.ofList line}'"

/-- A text is read as a whole, or it is refused for the first line that cannot be read. -/
structure AllOrNothing (text : List Char) : Prop where
  refused_iff : (∃ e, ChangedFile.readFiles text = .error e) ↔ ∃ line ∈ lines text, Unreadable line
  error_iff : ∀ e, ChangedFile.readFiles text = .error e ↔
    ∃ line, FirstUnreadable text line ∧ e = unexpectedLine line
  /-- A text that is not refused has a file for each line that is not blank. -/
  length_eq : ∀ files, ChangedFile.readFiles text = .ok files →
    files.length = (lines text).countP fun line => !allBlank line

/-- Of values that are collected, the first that cannot be had is the one that is named. -/
theorem mapM_eq_error_iff {α β : Type} {f : α → Except α β} {g : α → Option β}
    (h : ∀ x, f x = (g x).elim (.error x) .ok) {xs : List α} {x : α} :
    xs.mapM f = .error x ↔ xs.find? (fun y => (g y).isNone) = some x := by
  induction xs with
  | nil => simp [pure, Except.pure]
  | cons y ys ih =>
    rw [List.mapM_cons, List.find?_cons, h y]
    cases g y with
    | none => simp [bind, Except.bind]
    | some z =>
      rw [Option.isNone_some, ← ih]
      cases ys.mapM f <;> simp [bind, Except.bind, pure, Except.pure]

section

variable {text line : List Char}

/-- Reading a line finds out whether it makes a text unreadable. -/
theorem unreadable_iff : Unreadable line ↔
    (!allBlank line) = true ∧ (ChangedFile.readLine? line).isNone := by
  rw [Unreadable, ← readLine?_eq_none_iff]
  simp

instance : DecidablePred Unreadable := fun _ => decidable_of_iff _ unreadable_iff.symm

theorem firstUnreadable_iff : FirstUnreadable text line ↔
    (lines text).find? (fun line => decide (Unreadable line)) = some line := by
  rw [List.find?_eq_some_iff_append]
  constructor
  · rintro ⟨front, back, hlines, hline, hfront⟩
    exact ⟨decide_eq_true hline, front, back, hlines, fun other hother => by
      simpa using hfront other hother⟩
  · rintro ⟨hline, front, back, hlines, hfront⟩
    exact ⟨front, back, hlines, of_decide_eq_true hline, fun other hother => by
      simpa using hfront other hother⟩

theorem exists_firstUnreadable_iff :
    (∃ line, FirstUnreadable text line) ↔ ∃ line ∈ lines text, Unreadable line := by
  simp only [firstUnreadable_iff, ← Option.isSome_iff_exists, List.find?_isSome, decide_eq_true_eq]

/-- The lines that cannot be read are looked for among those that are not blank. -/
theorem readListing_eq_error_iff :
    ChangedFile.readListing text = .error line ↔ FirstUnreadable text line := by
  have hfind : ChangedFile.readListing text = .error line ↔
      (Diff.visibleLines text).find? (fun line => (ChangedFile.readLine? line).isNone) =
        some line :=
    mapM_eq_error_iff fun line => by cases ChangedFile.readLine? line <;> rfl
  rw [hfind, firstUnreadable_iff, Diff.visibleLines, List.find?_filter]
  simp only [unreadable_iff]

theorem readFiles_eq_error_iff {e : Error} : ChangedFile.readFiles text = .error e ↔
    ∃ line, FirstUnreadable text line ∧ e = unexpectedLine line := by
  simp only [← readListing_eq_error_iff, ChangedFile.readFiles]
  cases ChangedFile.readListing text <;> simp [Except.mapError, unexpectedLine, eq_comm]

theorem readFiles_eq_ok_iff {files : List ChangedFile} : ChangedFile.readFiles text = .ok files ↔
    (Diff.visibleLines text).map ChangedFile.readLine? = files.map some := by
  rw [← Diff.readListing_eq_ok_iff_visible, ChangedFile.readFiles]
  cases ChangedFile.readListing text <;> simp [Except.mapError]

end

/-- **A listing is read as its files, and any other text as a whole or not at all.** -/
theorem readFiles_listing (rows : List ListingLine) (text : List Char) :
    ChangedFile.readFiles (ListingLine.listing rows) = .ok (rows.filterMap ListingLine.file?) ∧
      AllOrNothing text := by
  refine ⟨readFiles_eq_ok_iff.mpr (ListingLine.map_readLine?_visible rows), ?_,
    fun e => readFiles_eq_error_iff, fun files h => ?_⟩
  · rw [← exists_firstUnreadable_iff]
    simp only [readFiles_eq_error_iff]
    constructor
    · rintro ⟨_, line, hline, -⟩
      exact ⟨line, hline⟩
    · rintro ⟨line, hline⟩
      exact ⟨_, line, hline, rfl⟩
  · have hlength := congrArg List.length (readFiles_eq_ok_iff.mp h)
    rw [List.length_map, List.length_map, Diff.visibleLines,
      ← List.countP_eq_length_filter] at hlength
    exact hlength.symm

end RuleDelta

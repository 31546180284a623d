import Mathlib.Data.List.Forall2
import RuleDelta.Git.Change
import RuleDelta.Proofs.Diff.NewFile
import RuleDelta.Proofs.Text.Blank
import RuleDelta.Proofs.Text.Utf8

/-!
# A file in the listing and in the diff

The files of a range are printed twice: as the rows of a listing and as the files of a diff. A new
file is looked up in the table of the diff under the path that the listing has for it. The listing
is read without the blanks at its ends, which takes the blanks at the end of its last path.

* `Part` is a file of a range, with its row of the listing and its rows of the diff;
* `lines_listing` says what is read of a listing;
* `LookedUp` says where the lines of a new file are filed, and when the listing has it under that
  path; `lookedUp_newFile` proves it.
-/

namespace RuleDelta.Diff

open Text

/-! ## Rows of a listing -/

/-- A row of a listing: it stands on one line, and it starts with a visible character. -/
structure ListingRow (row : List Char) : Prop where
  unbroken : '\n' ∉ row
  unreturned : '\r' ∉ row
  visible : ∃ c rest, row = c :: rest ∧ isBlank c = false

namespace ListingRow

theorem allBlank_eq_false {row : List Char} (h : ListingRow row) : allBlank row = false := by
  obtain ⟨c, rest, rfl, hc⟩ := h.visible
  simp [allBlank, hc]

theorem trimEnd {row : List Char} (h : ListingRow row) : ListingRow (trimEnd row) where
  unbroken hmem := h.unbroken (mem_of_mem_trimEnd hmem)
  unreturned hmem := h.unreturned (mem_of_mem_trimEnd hmem)
  visible := by
    obtain ⟨c, rest, rfl, hc⟩ := h.visible
    by_cases hrest : allBlank rest = true
    · refine ⟨c, [], ?_, hc⟩
      rw [← List.singleton_append, trimEnd_append_of_blank hrest, ← List.nil_append [c],
        trimEnd_concat hc]
    · refine ⟨c, Text.trimEnd rest, ?_, hc⟩
      rw [← List.singleton_append, trimEnd_append_of_visible (by simpa using hrest)]
      rfl

end ListingRow

/-- A printed path is read without the blanks at its end, unless it is in quotes. -/
theorem unquote_trimEnd_printed (wide : Bool) (s : List Char) :
    Path.unquote (trimEnd (Path.printed wide s)) =
      if Path.needsQuotes wide s then s else trimEnd s := by
  by_cases hquoted : Path.needsQuotes wide s = true
  · have hend : trimEnd (Path.printed wide s) = Path.printed wide s := by
      rw [Path.printed, if_pos hquoted, trimEnd_concat (by decide)]
    rw [if_pos hquoted, hend, Path.unquote_printed]
  · have hplain : Path.needsQuotes wide s = false := by simpa using hquoted
    have hnot : ∀ {c : Char}, Path.escapeLetter? c ≠ none → c ∉ trimEnd s :=
      fun hletter hmem => Path.not_mem_of_needsQuotes hplain hletter (mem_of_mem_trimEnd hmem)
    rw [if_neg hquoted, Path.printed, if_neg hquoted, Path.unquote,
      Path.inQuotes?_eq_none (hnot (by decide))]
    exact Path.normalize_eq_self (hnot (by decide))

/-- What a command printed that printed this text. -/
def outputOf (text : List Char) : GitOutput :=
  .ofBytes (Utf8.encode text) []

theorem decode_raw_outputOf (text : List Char) :
    Utf8.decodeLossy (outputOf text).raw = text :=
  Utf8.decodeLossy_encode text

/-- **The lines of a listing are its rows**, but for the blanks at the end of the last one. -/
theorem lines_stdout {rows : List (List Char)} {last : List Char}
    (hrows : ∀ row ∈ rows, ListingRow row) (hlast : ListingRow last) :
    lines (outputOf (unlines (rows ++ [last]))).stdout = rows ++ [trimEnd last] := by
  have htext : unlines (rows ++ [last]) = unlines rows ++ last ++ ['\n'] := by simp [unlines]
  have hhead : ∃ c rest, unlines rows ++ last ++ ['\n'] = c :: rest ∧ isBlank c = false := by
    cases rows with
    | nil =>
      obtain ⟨c, rest, rfl, hc⟩ := hlast.visible
      exact ⟨c, rest ++ ['\n'], rfl, hc⟩
    | cons row rows =>
      obtain ⟨c, rest, rfl, hc⟩ := (hrows row List.mem_cons_self).visible
      exact ⟨c, rest ++ '\n' :: (unlines rows ++ last ++ ['\n']), by simp [unlines], hc⟩
  have htrim : trim (unlines rows ++ last ++ ['\n']) = unlines rows ++ trimEnd last := by
    obtain ⟨c, rest, heq, hc⟩ := hhead
    rw [heq, trim_of_head hc, ← heq, trimEnd_append_of_blank (by decide),
      trimEnd_append_of_visible hlast.allBlank_eq_false]
  have hreturn : ∀ row ∈ rows, dropReturn row = row := fun row hrow =>
    dropReturn_eq_self (hrows row hrow).unreturned
  have hne : trimEnd last ≠ [] := by
    obtain ⟨c, rest, heq, -⟩ := hlast.trimEnd.visible
    simp [heq]
  show lines (trim (Utf8.decodeLossy (Utf8.encode _))) = _
  rw [Utf8.decodeLossy_encode, htext, htrim,
    lines_unlines_append fun row hrow => (hrows row hrow).unbroken, List.map_congr_left hreturn,
    List.map_id', lines_eq_singleton hne hlast.trimEnd.unbroken]

/-- Results that may be missing are collected when all are there. -/
theorem mapM_eq_ok_iff {α β ε : Type} (f : α → Except ε β) {xs : List α} {ys : List β} :
    xs.mapM f = .ok ys ↔ xs.map f = ys.map .ok := by
  induction xs generalizing ys with
  | nil => cases ys <;> simp [pure, Except.pure]
  | cons x xs ih =>
    rw [List.mapM_cons, List.map_cons]
    cases hx : f x with
    | error e => cases ys <;> simp [bind, Except.bind]
    | ok y =>
      cases hxs : xs.mapM f with
      | error e => cases ys <;> simp [bind, Except.bind, ← ih, hxs]
      | ok ys' => cases ys <;> simp [bind, Except.bind, pure, Except.pure, ← ih, hxs]

theorem map_eq_map_iff {α β γ δ : Type} {f : α → γ} {g : β → γ} {f' : α → δ} {g' : β → δ}
    (h : ∀ x y, f x = g y ↔ f' x = g' y) {xs : List α} {ys : List β} :
    xs.map f = ys.map g ↔ xs.map f' = ys.map g' := by
  induction xs generalizing ys with
  | nil => cases ys <;> simp
  | cons x xs ih => cases ys <;> simp [h, ih]

/-- The lines of a text that are not blank. -/
def visibleLines (text : List Char) : List (List Char) :=
  (lines text).filter fun line => !allBlank line

/-- A text is read when each of its lines is that is not blank. -/
theorem readListing_eq_ok_iff_visible {text : List Char} {files : List ChangedFile} :
    ChangedFile.readListing text = .ok files ↔
      (visibleLines text).map ChangedFile.readLine? = files.map some := by
  rw [ChangedFile.readListing, mapM_eq_ok_iff]
  refine map_eq_map_iff fun line file => ?_
  cases ChangedFile.readLine? line <;> simp

/-- A listing is read when each of its lines is. -/
theorem readListing_eq_ok_iff {listing : List Char}
    (h : ∀ line ∈ lines listing, allBlank line = false) {files : List ChangedFile} :
    ChangedFile.readListing listing = .ok files ↔
      (lines listing).map ChangedFile.readLine? = files.map some := by
  have hvisible : visibleLines listing = lines listing :=
    List.filter_eq_self.mpr fun line hline => by simp [h line hline]
  rw [readListing_eq_ok_iff_visible, hvisible]

/-- Of results that are all there, the one at a place is that of the value there. -/
theorem exists_map_eq_getElem? {α β : Type} {f : α → Option β} {xs : List α} {i : Nat} {x : α}
    (hx : xs[i]? = some x) {y : β} :
    (∃ ys : List β, xs.map f = ys.map some ∧ ys[i]? = some y) ↔
      (∀ x ∈ xs, (f x).isSome) ∧ f x = some y := by
  constructor
  · rintro ⟨ys, hmap, hy⟩
    constructor
    · intro x' hx'
      have hmem : f x' ∈ ys.map some := hmap ▸ List.mem_map_of_mem hx'
      obtain ⟨y', -, hy'⟩ := List.mem_map.mp hmem
      simp [← hy']
    · have hplace := congrArg (·[i]?) hmap
      simpa [hx, hy] using hplace
  · rintro ⟨hall, hy⟩
    refine ⟨xs.map fun x => (f x).getD y, ?_, by simp [hx, hy]⟩
    rw [List.map_map]
    refine List.map_congr_left fun x' hx' => ?_
    obtain ⟨y', hy'⟩ := Option.isSome_iff_exists.mp (hall x' hx')
    simp [hy']

/-! ## Files of a range -/

/-- A file of a range: a new one of any name, or one whose names need no quotes. -/
inductive Part
  | new (f : NewFile)
  | other (f : FileDiff)

namespace Part

/-- The rows of the file in a diff. -/
def rows : Part → List (List Char)
  | new f => f.rows
  | other f => f.rows

/-- What the rows of the file in a diff are read as. -/
def added : Part → List AddedLine
  | new f => f.linesUnder f.filedPath
  | other f => f.added

/-- What stands in front of the last path of the file in a listing. -/
def status : Part → List Char
  | new _ => ['A']
  | other f =>
    if f.deleted then ['D']
    else if f.created then ['A']
    else if f.oldPath.chars = f.newPath.chars then ['M']
    else "R100\t".toList ++ f.oldPath.chars

/-- The last path of the file in a listing. -/
def lastPath : Part → List Char
  | new f => f.path.shown []
  | other f => if f.deleted then f.oldPath.chars else f.newPath.chars

/-- The row of the file in a listing. -/
def listingRow (p : Part) : List Char :=
  p.status ++ '\t' :: p.lastPath

/-- The diff of these files. -/
def diff (parts : List Part) : List Char :=
  unlines (parts.flatMap rows)

/-- The listing of these files. -/
def listing (parts : List Part) : List Char :=
  unlines (parts.map listingRow)

theorem reads_parts (parts : List Part) :
    Cursor.Reads Cursor.Idle (parts.flatMap rows) (parts.flatMap added) Cursor.Idle := by
  induction parts with
  | nil => exact Cursor.Reads.nil fun _ hc => hc
  | cons p parts ih =>
    cases p with
    | new f => exact (Cursor.reads_newFile f).append ih
    | other f => exact (Cursor.reads_file f).append ih

/-- **The lines of a new file are filed under its path**, with a tab behind it if that is what the
row of the new side says. -/
theorem addedLines_diff (parts : List Part) : addedLines (diff parts) = parts.flatMap added := by
  refine (reads_parts parts).addedLines_unlines fun row hrow => ?_
  obtain ⟨p, -, hrow⟩ := List.mem_flatMap.mp hrow
  cases p with
  | new f => exact newline_not_mem_newFile f row hrow
  | other f => exact newline_not_mem_rows f row hrow

/-! ## The row of a file -/

/-- No path of a listing holds a control character. -/
theorem not_mem_lastPath {c : Char} (h : c.toNat < 0x20) (p : Part) : c ∉ p.lastPath := by
  have hplain : isPlain c = false := by simp [isPlain, h]
  cases p with
  | new f => exact f.path.not_mem_shown h []
  | other f =>
    simp only [lastPath]
    split
    · exact f.oldPath.not_mem hplain
    · exact f.newPath.not_mem hplain

theorem not_mem_of_visible {c : Char} {s : List Char} (hc : isBlank c = true)
    (hs : s.any isBlank = false) : c ∉ s :=
  fun hmem => List.any_eq_false.mp hs c hmem hc

theorem not_tab_mem_letter {letter : Char} (h : isBlank letter = false) : '\t' ∉ [letter] :=
  not_mem_of_visible (by decide) (by simpa using h)

/-- A status is a letter of a file with one path, or it has the old path of a file behind it. -/
theorem status_cases (p : Part) :
    (∃ letter, isBlank letter = false ∧
      (∀ path, (ChangedFile.ofFields? letter path none).isSome) ∧ p.status = [letter]) ∨
    ∃ old : PlainPath, p.status = "R100".toList ++ '\t' :: old.chars := by
  cases p with
  | new f => exact .inl ⟨'A', by decide, fun _ => rfl, rfl⟩
  | other f =>
    simp only [status]
    split
    · exact .inl ⟨'D', by decide, fun _ => rfl, rfl⟩
    split
    · exact .inl ⟨'A', by decide, fun _ => rfl, rfl⟩
    split
    · exact .inl ⟨'M', by decide, fun _ => rfl, rfl⟩
    · exact .inr ⟨f.oldPath, rfl⟩

/-- A row is read whatever stands for its last path. -/
theorem isSome_readLine? (p : Part) {path : List Char} (h : '\t' ∉ path) :
    (ChangedFile.readLine? (p.status ++ '\t' :: path)).isSome := by
  rcases p.status_cases with ⟨letter, hvisible, hfile, hstatus⟩ | ⟨old, hstatus⟩
  · have hletter := not_tab_mem_letter hvisible
    rw [hstatus, ChangedFile.readLine?, splitAt_append hletter, splitAt_eq_singleton h]
    exact hfile _
  · have hold : '\t' ∉ old.chars := old.not_mem (by decide)
    have hword : '\t' ∉ "R100".toList := by decide
    rw [hstatus, List.append_assoc, List.cons_append, ChangedFile.readLine?, splitAt_append hword,
      splitAt_append hold, splitAt_eq_singleton h]
    rfl

/-- A row without its last path is not read. -/
theorem readLine?_status (p : Part) : ChangedFile.readLine? (trimEnd p.status) = none := by
  rcases p.status_cases with ⟨letter, hvisible, -, hstatus⟩ | ⟨old, hstatus⟩
  · have hletter := not_tab_mem_letter hvisible
    rw [hstatus, ← List.nil_append [letter], trimEnd_concat hvisible, List.nil_append,
      ChangedFile.readLine?, splitAt_eq_singleton hletter]
  · have hword : '\t' ∉ "R100".toList := by decide
    rw [hstatus]
    rw [trimEnd_append_cons (by decide)]
    split
    · decide
    · have hold : '\t' ∉ trimEnd old.chars := fun hmem =>
        old.not_mem (by decide) (mem_of_mem_trimEnd hmem)
      rw [ChangedFile.readLine?, splitAt_append hword, splitAt_eq_singleton hold]
      rfl

/-- A row holds no blank that ends a line. -/
theorem not_mem_listingRow {c : Char} (h : c.toNat < 0x20) (hblank : isBlank c = true)
    (htab : c ≠ '\t') (p : Part) : c ∉ p.listingRow := by
  have hplain : isPlain c = false := by simp [isPlain, h]
  have hstatus : c ∉ p.status := by
    rcases p.status_cases with ⟨letter, hvisible, -, hstatus⟩ | ⟨old, hstatus⟩
    · rw [hstatus]
      exact not_mem_of_visible hblank (by simpa using hvisible)
    · have hword := not_mem_of_visible hblank (s := "R100".toList) (by decide)
      rw [hstatus]
      simp only [List.mem_append, List.mem_cons, not_or]
      exact ⟨hword, htab, old.not_mem hplain⟩
  simp only [listingRow, List.mem_append, List.mem_cons, not_or]
  exact ⟨hstatus, htab, p.not_mem_lastPath h⟩

theorem isRow (p : Part) : ListingRow p.listingRow where
  unbroken := p.not_mem_listingRow (by decide) (by decide) (by decide)
  unreturned := p.not_mem_listingRow (by decide) (by decide) (by decide)
  visible := by
    rcases p.status_cases with ⟨letter, hvisible, -, hstatus⟩ | ⟨old, hstatus⟩
    · exact ⟨letter, '\t' :: p.lastPath, by rw [listingRow, hstatus]; rfl, hvisible⟩
    · exact ⟨'R', "100".toList ++ '\t' :: old.chars ++ '\t' :: p.lastPath,
        by rw [listingRow, hstatus]; rfl, by decide⟩

/-- The row of a file as the last one of a listing. -/
theorem isSome_readLine?_trimEnd (p : Part) :
    (ChangedFile.readLine? (trimEnd p.listingRow)).isSome ↔ allBlank p.lastPath = false := by
  rw [listingRow, trimEnd_append_cons (by decide)]
  split
  · rename_i hblank
    simp [readLine?_status, hblank]
  · rename_i hblank
    have hnot : '\t' ∉ trimEnd p.lastPath := fun hmem =>
      p.not_mem_lastPath (by decide) (mem_of_mem_trimEnd hmem)
    simpa [p.isSome_readLine? hnot] using hblank

/-- The paths of a listing that a file stands in as the last one. -/
theorem lines_listing (front : List Part) (last : Part) :
    lines (outputOf (listing (front ++ [last]))).stdout =
      front.map listingRow ++ [trimEnd last.listingRow] := by
  rw [listing, List.map_append, List.map_singleton]
  refine lines_stdout (fun row hrow => ?_) last.isRow
  obtain ⟨p, -, rfl⟩ := List.mem_map.mp hrow
  exact p.isRow

end Part

/-! ## The row of a new file -/

namespace NewFile

theorem readLine?_added {path : List Char} (h : '\t' ∉ path) :
    ChangedFile.readLine? ('A' :: '\t' :: path) =
      some (.added (String.ofList (Path.unquote path))) := by
  have hletter : '\t' ∉ ['A'] := by decide
  have hsplit := splitAt_append hletter path
  rw [List.singleton_append, splitAt_eq_singleton h] at hsplit
  rw [ChangedFile.readLine?, hsplit]
  rfl

theorem listingRow_new (f : NewFile) :
    (Part.new f).listingRow = ['A', '\t'] ++ f.path.shown [] := rfl

/-- The row of a new file names its path. -/
theorem readLine?_listingRow (f : NewFile) :
    ChangedFile.readLine? (Part.new f).listingRow = some (.added (String.ofList f.path.chars)) := by
  have hunquote : Path.unquote (f.path.shown []) = f.path.chars := Path.unquote_printed false _
  rw [listingRow_new, List.cons_append, List.singleton_append,
    readLine?_added (f.path.not_mem_shown (by decide) []), hunquote]

/-- The lines of a file are filed under its path, unless a tab stands behind it. -/
theorem filedPath_eq_iff (f : NewFile) :
    f.path.chars = f.filedPath ↔ f.path.isQuoted = true ∨ ' ' ∉ f.path.chars := by
  unfold filedPath RepoPath.mark
  by_cases hquoted : f.path.isQuoted = true
  · simp [hquoted]
  · by_cases hspace : ' ' ∈ f.path.chars <;> simp [hquoted, hspace]

/-- The last row of a listing has the path of a new file if no blank ends the path. -/
theorem readLine?_trimEnd (f : NewFile) :
    ChangedFile.readLine? (trimEnd (Part.new f).listingRow) =
        some (.added (String.ofList f.filedPath)) ↔
      f.path.isQuoted = true ∨ ' ' ∉ f.path.chars ∧ trimEnd f.path.chars = f.path.chars := by
  have hside : Path.needsQuotes false [] = false := rfl
  rw [listingRow_new]
  by_cases hquoted : f.path.isQuoted = true
  · have hshown := RepoPath.shown_of_quoted hquoted hside
    have hrow := f.readLine?_listingRow
    rw [listingRow_new, f.filedPath_eq_iff.mpr (.inl hquoted)] at hrow
    rw [hshown, ← List.append_assoc, trimEnd_concat (by decide), List.append_assoc, ← hshown, hrow]
    simp [hquoted]
  · have hplain : f.path.isQuoted = false := by simpa using hquoted
    have hshown : f.path.shown [] = f.path.chars := RepoPath.shown_of_plain hplain hside
    rw [hshown]
    by_cases hblank : allBlank f.path.chars = true
    · have hne : trimEnd f.path.chars ≠ f.path.chars := fun heq =>
        f.path.nonempty (heq ▸ trimEnd_eq_nil_iff.mpr hblank)
      have hnone : ChangedFile.readLine? (trimEnd ['A', '\t']) = none := by decide
      rw [trimEnd_append_of_blank hblank, hnone]
      simp [hplain, hne]
    · have htab : '\t' ∉ f.path.chars := Path.not_mem_of_needsQuotes hplain (by decide)
      have hunquote : Path.unquote (trimEnd f.path.chars) = trimEnd f.path.chars := by
        have hprinted := unquote_trimEnd_printed false f.path.chars
        rwa [Path.printed, ← RepoPath.isQuoted, hplain, if_neg Bool.false_ne_true,
          if_neg Bool.false_ne_true] at hprinted
      rw [trimEnd_append_of_visible (by simpa using hblank), List.cons_append,
        List.singleton_append, readLine?_added fun hmem => htab (mem_of_mem_trimEnd hmem), hunquote]
      simp only [Option.some.injEq, ChangedFile.added.injEq, String.ofList_inj, hplain,
        Bool.false_eq_true, false_or]
      by_cases hspace : ' ' ∈ f.path.chars
      · have hfiled : f.filedPath = f.path.chars ++ ['\t'] := by
          simp [filedPath, RepoPath.mark, hplain, hspace]
        have hne : trimEnd f.path.chars ≠ f.filedPath := fun heq =>
          htab (mem_of_mem_trimEnd (heq ▸ hfiled ▸ by simp))
        simp [hne, hspace]
      · rw [← f.filedPath_eq_iff.mpr (.inr hspace)]
        simp [hspace]

end NewFile

/-! ## Both views of a new file -/

/-- The listing of these files has an added file of this path at a place. -/
def IsListed (parts : List Part) (place : Nat) (path : List Char) : Prop :=
  ∃ files, ChangedFile.readListing (outputOf (Part.listing parts)).stdout = .ok files ∧
    files[place]? = some (.added (String.ofList path))

/-- What is read of a new file in the diff and in the listing of a range. -/
structure LookedUp (front back : List Part) (f : NewFile) : Prop where
  /-- The lines of the file are filed under a path, and the files around it have no part in that. -/
  added : addedLines (Utf8.decodeLossy (outputOf (Part.diff (front ++ .new f :: back))).raw) =
    front.flatMap Part.added ++ (f.linesUnder f.filedPath ++ back.flatMap Part.added)
  /-- They are all found under that path. -/
  found : ∀ n, 1 ≤ n → n ≤ f.lines.length →
    n ∈ (takeLines
      (addedByFile (Utf8.decodeLossy (outputOf (Part.diff (front ++ .new f :: back))).raw))
      (some (String.ofList f.filedPath))).1
  /-- The listing has the file under that path if the path is in quotes or has no space. The last
  path must not end with a blank, unless it is in quotes; no path is left of one that is blank. -/
  listed : IsListed (front ++ .new f :: back) front.length f.filedPath ↔
    (f.path.isQuoted = true ∨ ' ' ∉ f.path.chars) ∧
    (back = [] → f.path.isQuoted = true ∨ trimEnd f.path.chars = f.path.chars) ∧
    ∀ p, back.getLast? = some p → allBlank p.lastPath = false

/-- A file is listed where its row is read, given that the last row is. -/
theorem isListed_iff {parts : List Part} {last : Part} {place : Nat} {row path : List Char}
    (hrow : (parts.map Part.listingRow ++ [trimEnd last.listingRow])[place]? = some row) :
    IsListed (parts ++ [last]) place path ↔ allBlank last.lastPath = false ∧
      ChangedFile.readLine? row = some (.added (String.ofList path)) := by
  have hlines := Part.lines_listing parts last
  have hvisible : ∀ line ∈ lines (outputOf (Part.listing (parts ++ [last]))).stdout,
      allBlank line = false := by
    rw [hlines, List.forall_mem_append, List.forall_mem_map, List.forall_mem_singleton]
    exact ⟨fun p _ => p.isRow.allBlank_eq_false, last.isRow.trimEnd.allBlank_eq_false⟩
  have hread : (∀ line ∈ parts.map Part.listingRow ++ [trimEnd last.listingRow],
      (ChangedFile.readLine? line).isSome) ↔ allBlank last.lastPath = false := by
    rw [List.forall_mem_append, List.forall_mem_map, List.forall_mem_singleton,
      last.isSome_readLine?_trimEnd, and_iff_right]
    exact fun p _ => p.isSome_readLine? (p.not_mem_lastPath (by decide))
  simp only [IsListed, readListing_eq_ok_iff hvisible]
  rw [hlines, exists_map_eq_getElem? hrow, hread]

/-- A new file that a listing has last. -/
theorem isListed_last (front : List Part) (f : NewFile) :
    IsListed (front ++ [.new f]) front.length f.filedPath ↔
      f.path.isQuoted = true ∨ ' ' ∉ f.path.chars ∧ trimEnd f.path.chars = f.path.chars := by
  have hrow : (front.map Part.listingRow ++ [trimEnd (Part.new f).listingRow])[front.length]? =
      some (trimEnd (Part.new f).listingRow) := by simp
  rw [isListed_iff hrow, ← f.readLine?_trimEnd, ← Part.isSome_readLine?_trimEnd,
    and_iff_right_of_imp]
  exact fun hread => by simp [hread]

/-- A new file that a listing has before others. -/
theorem isListed_front (front back : List Part) (last : Part) (f : NewFile) :
    IsListed (front ++ .new f :: (back ++ [last])) front.length f.filedPath ↔
      (f.path.isQuoted = true ∨ ' ' ∉ f.path.chars) ∧ allBlank last.lastPath = false := by
  have hrow : ((front ++ .new f :: back).map Part.listingRow ++
      [trimEnd last.listingRow])[front.length]? = some (Part.new f).listingRow := by simp
  have hparts : front ++ .new f :: (back ++ [last]) = front ++ .new f :: back ++ [last] := by simp
  rw [hparts, isListed_iff hrow, f.readLine?_listingRow, ← f.filedPath_eq_iff, and_comm]
  simp [String.ofList_inj]

/-- **A new file is looked up under the path that its lines are filed under** if its path is in
quotes, or else if it has no space and, in the last row, no blank at its end. -/
theorem lookedUp_newFile (front back : List Part) (f : NewFile) : LookedUp front back f where
  added := by
    rw [decode_raw_outputOf, Part.addedLines_diff, List.flatMap_append, List.flatMap_cons]
    rfl
  found n hpos hle := by
    obtain ⟨a, hmem, hfile, hline⟩ := f.exists_mem_linesUnder f.filedPath hpos hle
    have hadded : a ∈ addedLines (Part.diff (front ++ .new f :: back)) := by
      rw [Part.addedLines_diff]
      exact List.mem_flatMap.mpr ⟨.new f, by simp, hmem⟩
    rw [decode_raw_outputOf]
    exact (tabulates_addedByFile _).mem_lookup.mpr ⟨a, hadded, hfile, hline⟩
  listed := by
    rcases List.eq_nil_or_concat back with rfl | ⟨back, last, rfl⟩
    · rw [isListed_last]
      simp only [forall_const, List.getLast?_nil, reduceCtorEq, false_imp_iff, implies_true,
        and_true]
      exact or_and_left
    · rw [List.concat_eq_append, isListed_front]
      simp

/-- A new file of one line, with a space in its name. -/
def spacedFile : NewFile where
  path := ⟨"a b".toList, by decide, by decide⟩
  headers := [⟨"new file mode ".toList, by decide, .ofString "100644"⟩,
    ⟨"index ".toList, by decide, .ofString "0000000..7898192"⟩]
  lines := [⟨.inserted, .ofString "a", false⟩]
  inserted := by simp
  nonempty := by simp
  length_le := by decide
  heading := .ofString ""
  short := true

/-- The line of the file is not found under the path that the listing has. -/
theorem spacedFile_notFound :
    IsListed [.new spacedFile] 0 "a b".toList ∧
      (takeLines (addedByFile (Utf8.decodeLossy (outputOf (Part.diff [.new spacedFile])).raw))
        (some "a b")).1 = [] := by
  constructor
  · exact ⟨[.added "a b"], by decide +kernel, by decide⟩
  · decide +kernel

end RuleDelta.Diff

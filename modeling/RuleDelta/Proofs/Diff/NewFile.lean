import RuleDelta.Proofs.Diff.AddedLine
import RuleDelta.Proofs.Diff.Quoting

/-!
# New files of any name in a diff

A diff prints the names of a new file in quotes where that is needed, and it writes a tab behind the
name of the new side when the name has a space. The tab is taken for a part of the name, unless the
name is in quotes: then the row is not read as a name at all, and the name in the row that opens
the file stands.

* `NewFile` is a new file with its lines, and `NewFile.rows` are its rows;
* `NewFile.filedPath` is the path that its lines are filed under (`reads_newFile`).
-/

namespace RuleDelta.Diff

open Text

/-- A path of a repository. -/
structure RepoPath where
  chars : List Char
  nonempty : chars ≠ []
  nonzero : Char.ofNat 0 ∉ chars

namespace RepoPath

/-- Whether the path is printed in quotes. -/
def isQuoted (p : RepoPath) : Bool :=
  Path.needsQuotes false p.chars

/-- The path as it is printed, with the side of the diff in front if there is one. -/
def shown (side : List Char) (p : RepoPath) : List Char :=
  Path.printed false (side ++ p.chars)

/-- What is written behind a path that ends a row. -/
def mark (p : RepoPath) : List Char :=
  if ' ' ∈ p.chars then ['\t'] else []

end RepoPath

/-- A new file that has lines. -/
structure NewFile where
  path : RepoPath
  headers : List ExtendedHeader
  lines : List Edit
  inserted : ∀ e ∈ lines, e.sign = .inserted
  nonempty : lines ≠ []
  length_le : lines.length ≤ wordMax
  /-- What stands behind the closing signs of the header. -/
  heading : LineText
  /-- Whether a length of one is left out. -/
  short : Bool

namespace NewFile

/-- The only hunk of the file. -/
def excerpt (f : NewFile) : Excerpt where
  hidden := .none
  shown := f.lines
  heading := f.heading
  oldShort := f.short
  newShort := f.short

/-- The names of both sides, as the row that opens the file has them. -/
def names (f : NewFile) : List Char :=
  f.path.shown "a/".toList ++ ' ' :: f.path.shown "b/".toList

/-- The name of the new side, as the row of that side has it. -/
def newName (f : NewFile) : List Char :=
  f.path.shown "b/".toList ++ f.path.mark

/-- The rows of the file. -/
def rows (f : NewFile) : List (List Char) :=
  ("diff --git ".toList ++ f.names) :: f.headers.map ExtendedHeader.row ++
    ["--- /dev/null".toList, "+++ ".toList ++ f.newName] ++ Excerpt.rowsFrom 0 0 [f.excerpt]

/-- The path that the lines of the file are filed under. -/
def filedPath (f : NewFile) : List Char :=
  if f.path.isQuoted then f.path.chars else f.path.chars ++ f.path.mark

/-- The lines of the file, as those of a path. -/
def linesUnder (path : List Char) (f : NewFile) : List AddedLine :=
  (f.lines.zipIdx 1).map fun (e, n) =>
    ⟨String.ofList path, n, String.ofList (dropReturn e.text.chars)⟩

/-! ## The lines of a file -/

theorem insertedFrom_lines (f : NewFile) : insertedFrom 0 f.lines = f.lines.zipIdx 1 := by
  have hnew : f.lines.filter (fun e => e.sign.isNew) = f.lines :=
    List.filter_eq_self.mpr fun e he => by simp [f.inserted e he, Sign.isNew]
  rw [insertedFrom, hnew]
  refine List.filter_eq_self.mpr ?_
  rintro ⟨e, n⟩ hmem
  simp [f.inserted e (List.fst_mem_of_mem_zipIdx hmem)]

theorem oldLength_lines (f : NewFile) : oldLength f.lines = 0 :=
  List.countP_eq_zero.mpr fun e he => by simp [f.inserted e he, Sign.isOld]

theorem newLength_lines (f : NewFile) : newLength f.lines = f.lines.length :=
  List.countP_eq_length.mpr fun e he => by simp [f.inserted e he, Sign.isNew]

/-- Each line of the file has its number. -/
theorem exists_mem_linesUnder (f : NewFile) (path : List Char) {n : Nat} (hpos : 1 ≤ n)
    (hle : n ≤ f.lines.length) :
    ∃ a ∈ f.linesUnder path, a.file = String.ofList path ∧ a.line = n := by
  obtain ⟨i, rfl⟩ := Nat.exists_eq_add_of_le hpos
  have hi : i < f.lines.length := by omega
  have hmem : (f.lines[i], 1 + i) ∈ f.lines.zipIdx 1 :=
    List.mk_add_mem_zipIdx_iff_getElem?.mpr (List.getElem?_eq_getElem hi)
  exact ⟨_, List.mem_map_of_mem hmem, rfl, rfl⟩

end NewFile

/-! ## The names of a file -/

namespace RepoPath

theorem shown_of_plain {p : RepoPath} (h : p.isQuoted = false) {side : List Char}
    (hside : Path.needsQuotes false side = false) : p.shown side = side ++ p.chars := by
  unfold isQuoted at h
  rw [shown, Path.printed_append hside, h, if_neg Bool.false_ne_true]

theorem shown_of_quoted {p : RepoPath} (h : p.isQuoted = true) {side : List Char}
    (hside : Path.needsQuotes false side = false) :
    p.shown side = '"' :: (side ++ Path.escaped false p.chars) ++ ['"'] := by
  unfold isQuoted at h
  rw [shown, Path.printed_append hside, h, if_pos rfl]

theorem not_mem_mark {c : Char} (h : c ≠ '\t') (p : RepoPath) : c ∉ p.mark := by
  unfold mark
  split <;> simp [h]

/-- A printed path holds no control characters. -/
theorem not_mem_shown {c : Char} (h : c.toNat < 0x20) (p : RepoPath) (side : List Char) :
    c ∉ p.shown side := by
  intro hmem
  have := Path.le_of_mem_printed c hmem
  omega

end RepoPath

namespace NewFile

/-- The name of the new side is found in the row that opens the file when it is in quotes. -/
theorem readHeaderPath?_names {f : NewFile} (h : f.path.isQuoted = true) :
    readHeaderPath? f.names = some f.path.chars := by
  have hside : Path.needsQuotes false "b/".toList = false := by decide
  have hshown := RepoPath.shown_of_quoted h hside
  have hnames : f.names = f.path.shown "a/".toList ++
      (" \"b/".toList ++ (Path.escaped false f.path.chars ++ ['"'])) := by
    rw [names, hshown]
    rfl
  have hlast : f.names.getLast? = some '"' := by
    rw [hnames, ← List.append_assoc, ← List.append_assoc, List.getLast?_concat]
  have hunquote : Path.unquote ("\"b/".toList ++ (Path.escaped false f.path.chars ++ ['"'])) =
      "b/".toList ++ f.path.chars := by
    rw [← Path.unquote_printed false ("b/".toList ++ f.path.chars), ← RepoPath.shown, hshown]
    rfl
  rw [readHeaderPath?, if_pos hlast, hnames, Path.splitLast?_quotedName, Option.bind_eq_bind,
    Option.bind_some]
  simp only [hunquote, dropWord?_append]

/-- **The row of the new side names the file, or it is not read as a name** and the name is in
quotes. -/
theorem unquote_newName (f : NewFile) :
    dropWord? "b/".toList (Path.unquote f.newName) = some f.filedPath ∨
      f.path.isQuoted = true ∧ dropWord? "b/".toList (Path.unquote f.newName) = none := by
  have hside : Path.needsQuotes false "b/".toList = false := by decide
  by_cases hquoted : f.path.isQuoted = true
  · rw [filedPath, if_pos hquoted, newName]
    by_cases hspace : ' ' ∈ f.path.chars
    · refine .inr ⟨hquoted, ?_⟩
      have hquotes : Path.inQuotes? (f.path.shown "b/".toList ++ f.path.mark) = none := by
        rw [RepoPath.mark, if_pos hspace, RepoPath.shown_of_quoted hquoted hside, Path.inQuotes?]
        simp [dropWord?, dropWordEnd?]
      rw [Path.unquote, hquotes, RepoPath.shown_of_quoted hquoted hside]
      exact dropWord?_of_head_ne (by decide) _ _
    · rw [RepoPath.mark, if_neg hspace, List.append_nil, RepoPath.shown, Path.unquote_printed,
        dropWord?_append]
      exact .inl rfl
  · have hplain : f.path.isQuoted = false := by simpa using hquoted
    have hshown := RepoPath.shown_of_plain hplain hside
    rw [filedPath, if_neg hquoted, newName, hshown, List.append_assoc]
    have hnot : ∀ {c : Char}, Path.escapeLetter? c ≠ none → c ≠ '\t' → c ∉ "b/".toList →
        c ∉ "b/".toList ++ (f.path.chars ++ f.path.mark) := fun hletter htab hc => by
      simp only [List.mem_append, not_or]
      exact ⟨hc, Path.not_mem_of_needsQuotes hplain hletter, f.path.not_mem_mark htab⟩
    rw [Path.unquote, Path.inQuotes?_eq_none (hnot (by decide) (by decide) (by decide))]
    refine .inl ?_
    show dropWord? _ (Path.normalize _) = _
    rw [Path.normalize_eq_self (hnot (by decide) (by decide) (by decide)), dropWord?_append]

/-- The row of the new side does not say that there is none. -/
theorem newName_ne (f : NewFile) : f.newName ≠ "/dev/null".toList := by
  have hside : Path.needsQuotes false "b/".toList = false := by decide
  intro heq
  have hhead := congrArg List.head? heq
  by_cases hquoted : f.path.isQuoted = true
  · rw [newName, RepoPath.shown_of_quoted hquoted hside] at hhead
    simp at hhead
  · rw [newName, RepoPath.shown_of_plain (by simpa using hquoted) hside] at hhead
    simp at hhead

end NewFile

namespace Cursor

theorem readHeader_names (c : Cursor) (f : NewFile) :
    c.readHeader ("diff --git ".toList ++ f.names) =
      { c with file := readHeaderPath? f.names, line := 0 } := by
  rw [readHeader, dropWord?_append]

/-- The row of the new side sets a cursor to the file, from where the row that opens the file has
left it. -/
theorem readHeader_newName {c : Cursor} {f : NewFile} (hfile : c.file = readHeaderPath? f.names) :
    c.readHeader ("+++ ".toList ++ f.newName) = { c with file := some f.filedPath } := by
  have hgit : dropWord? "diff --git ".toList ("+++ ".toList ++ f.newName) = none :=
    dropWord?_append_eq_none (by decide) _
  have hnull := f.newName_ne
  rw [readHeader, hgit, dropWord?_append]
  simp only [hnull, if_false]
  rcases f.unquote_newName with hname | ⟨hquoted, hname⟩
  · simp only [hname]
  · have hfiled : f.filedPath = f.path.chars := if_pos hquoted
    simp only [hname]
    rw [hfiled, ← NewFile.readHeaderPath?_names hquoted, ← hfile]

/-- **A new file is read as its lines**, under the path that it is filed under. -/
theorem reads_newFile (f : NewFile) :
    Reads Idle f.rows (f.linesUnder f.filedPath) Idle := by
  have hreturn : '\r'.toNat < 0x20 := by decide
  have hopening : Reads Idle ["diff --git ".toList ++ f.names] []
      (Between (readHeaderPath? f.names)) := by
    refine Reads.quiet fun c hc => ?_
    have hnot : '\r' ∉ "diff --git ".toList ++ f.names := by
      simp [NewFile.names, RepoPath.not_mem_shown hreturn]
    rw [hc.advance, dropReturn_eq_self hnot, readHeader_names]
    refine ⟨_, ?_, rfl⟩
    exact ⟨rfl, hc.2⟩
  have hold : Reads (Between (readHeaderPath? f.names)) ["--- /dev/null".toList] []
      (Between (readHeaderPath? f.names)) := by
    refine Reads.quiet fun c hc => ⟨c, hc, ?_⟩
    have hself := readHeader_eq_self "--- ".toList (by decide) c "/dev/null".toList
    rw [hc.advance, dropReturn_eq_self (by decide)]
    exact congrArg (·, none) hself
  have hnew : Reads (Between (readHeaderPath? f.names)) ["+++ ".toList ++ f.newName] []
      (Between (some f.filedPath)) := by
    refine Reads.quiet fun c hc => ?_
    have hnot : '\r' ∉ "+++ ".toList ++ f.newName := by
      simp [NewFile.newName, RepoPath.not_mem_shown hreturn, RepoPath.not_mem_mark]
    rw [hc.advance, dropReturn_eq_self hnot, readHeader_newName hc.1]
    refine ⟨_, ?_, rfl⟩
    exact ⟨rfl, hc.2⟩
  have hlength := f.length_le
  have hedits : f.excerpt.edits = f.lines := rfl
  have hhunk := @reads_excerpts (some f.filedPath) [f.excerpt] 0 0
    (by simp [hedits, f.oldLength_lines]) (by simpa [hedits, f.newLength_lines] using hlength)
  rw [List.flatMap_singleton, hedits, NewFile.insertedFrom_lines] at hhunk
  have hheaders := hopening.append (reads_extended (readHeaderPath? f.names) f.headers)
  exact ((hheaders.append (hold.append hnew)).append hhunk).mono
    (fun _ hc => hc) fun _ hc => hc.idle

end Cursor

/-- No row of a new file holds a line feed. -/
theorem newline_not_mem_newFile (f : NewFile) : ∀ row ∈ f.rows, '\n' ∉ row := by
  have hfeed : '\n'.toNat < 0x20 := by decide
  have hkeyword : ∀ keyword ∈ headerKeywords, '\n' ∉ keyword := by decide
  simp only [NewFile.rows, List.cons_append, List.mem_cons, List.mem_append, List.mem_map,
    List.not_mem_nil, or_false]
  rintro row (rfl | (⟨h, -, rfl⟩ | rfl | rfl) | hrow)
  · simp [NewFile.names, RepoPath.not_mem_shown hfeed]
  · simp [ExtendedHeader.row, hkeyword _ h.known, h.text.unbroken]
  · decide
  · simp [NewFile.newName, RepoPath.not_mem_shown hfeed, RepoPath.not_mem_mark]
  · exact newline_not_mem_rowsFrom _ _ _ row hrow

end RuleDelta.Diff

import Mathlib.Data.List.Forall2
import RuleDelta.Proofs.Git.Reading

/-!
# Changed lines and content

The lines of a changed file come from the diff of its own path, and its content is that of the path
unless the path is a link. So the lines are lines of the content, but for a link whose target has
fewer lines than the text of the link (`linesMatch_of_changes`).

* `DiffFits` is what a diff has to say of the files that are stored;
* `OutrunsTarget` is a link that is longer than its target, and `LinesMatch` says where the lines of
  a changed file stand.
-/

namespace RuleDelta

open Run Text

/-! ## Lines that a diff adds -/

/-- The lines that the diff of a range adds to a path are lines of what is stored under it. -/
def DiffFits (runner : GitRunner) (range : CommitRange) : Prop :=
  ∀ diff, runner (diffCommand range "-U0") = .ok diff →
    ∀ a ∈ Diff.addedLines (Utf8.decodeLossy diff.raw),
      ∀ stored, runner (blobCommand range.newest a.file) = .ok stored →
        a.line ∈ LineSet.linesOf stored.raw

/-- Each row of the table holds lines that were added to its file. -/
def RowsOf (added : List AddedLine) (table : Diff.LineTable) : Prop :=
  ∀ row ∈ table, ∀ n ∈ row.2, ∃ a ∈ added, a.file = row.1 ∧ a.line = n

/-- The lines of a changed file were added to its new path. -/
def AddedTo (added : List AddedLine) (file : ChangedFile) (lines : List Nat) : Prop :=
  ∀ n ∈ lines, ∃ a ∈ added, file.after? = some a.file ∧ a.line = n

theorem rowsOf_addedByFile (diff : List Char) :
    RowsOf (Diff.addedLines diff) (Diff.addedByFile diff) := fun row hrow n hn =>
  ((Diff.tabulates_addedByFile diff).mem row.1 n).mp ⟨row, hrow, rfl, hn⟩

/-- Taking the lines of a file takes lines that were added to it, and leaves the others. -/
theorem RowsOf.takeLines {added : List AddedLine} {table : Diff.LineTable}
    (h : RowsOf added table) (file : ChangedFile) :
    AddedTo added file (takeLines table file.after?).1 ∧
      RowsOf added (RuleDelta.takeLines table file.after?).2 := by
  unfold AddedTo
  cases file.after? with
  | none => exact ⟨nofun, h⟩
  | some path =>
    refine ⟨fun n hn => ?_, fun row hrow => h row (List.mem_filter.mp hrow).1⟩
    change n ∈ (table.lookup path).getD [] at hn
    cases hrow : table.lookup path with
    | none => simp [hrow] at hn
    | some lines =>
      rw [hrow] at hn
      obtain ⟨a, ha, rfl, hline⟩ := h _ (Diff.mem_of_lookup_eq_some hrow) n hn
      exact ⟨a, ha, rfl, hline⟩

section

variable {runner : GitRunner} {range : CommitRange} {t t' : Trace}

theorem forall₂_addedTo {added : List AddedLine} {table : Diff.LineTable}
    {files : List ChangedFile} {found : List FileChange} (htable : RowsOf added table)
    (h : (readChanges runner range table files).Ends t (.ok found) t') :
    List.Forall₂ (fun file change => ReadFrom runner range file change ∧
      AddedTo added file change.modifiedLines) files found := by
  induction files generalizing table t t' found with
  | nil =>
    obtain ⟨rfl, -⟩ := returns_pure.mp h
    exact .nil
  | cons file rest ih =>
    obtain ⟨htaken, hleft⟩ := htable.takeLines file
    simp only [readChanges, returns_bind, returns_pure] at h
    obtain ⟨change, s, hchange, others, s', hothers, rfl, -⟩ := h
    refine .cons ⟨readFrom_of_readChange hchange, ?_⟩ (ih hleft hothers)
    rw [(returns_readChange hchange).1]
    exact htaken

/-- The lines of the changed files of a range are lines that its diff adds. -/
theorem exists_forall₂_addedTo {found : List FileChange}
    (h : (changes runner range).Ends t (.ok found) t') :
    found = [] ∨ ∃ diff files, runner (diffCommand range "-U0") = .ok diff ∧
      List.Forall₂ (fun file change => ReadFrom runner range file change ∧
        AddedTo (Diff.addedLines (Utf8.decodeLossy diff.raw)) file change.modifiedLines)
          files found := by
  obtain ⟨files, -, ⟨-, rfl⟩ | ⟨diff, s, hdiff, hread⟩⟩ := returns_changes h
  · exact .inl rfl
  · exact .inr ⟨diff, files, hdiff, forall₂_addedTo (rowsOf_addedByFile _) hread⟩

end

/-! ## Lines of the content -/

/-- The new side of a changed file is a link, and its content has fewer lines than the text of the
link. -/
structure OutrunsTarget (runner : GitRunner) (range : CommitRange) (change : FileChange) :
    Prop where
  link : ∃ listing, runner (treeCommand range.newest change.after.name) = .ok listing ∧
    startsWith listing.stdout linkMode = true
  shorter : ∃ stored, runner (blobCommand range.newest change.after.name) = .ok stored ∧
    LineSet.lineCount change.bodyAfter < LineSet.lineCount stored.raw

/-- Where the lines of a changed file stand. -/
structure LinesMatch (runner : GitRunner) (range : CommitRange) (change : FileChange) :
    Prop where
  /-- They are lines of what is stored under the new path; of a link, that is its text. -/
  stored : ∀ stored, runner (blobCommand range.newest change.after.name) = .ok stored →
    ∀ n ∈ change.modifiedLines, n ∈ LineSet.linesOf stored.raw
  /-- They are lines of the content, unless the text of a link is longer than its target. -/
  content : ¬OutrunsTarget runner range change →
    ∀ n ∈ change.modifiedLines, n ∈ LineSet.linesOf change.bodyAfter

theorem mem_linesOf {n : Nat} {body : List UInt8} :
    n ∈ LineSet.linesOf body ↔ 1 ≤ n ∧ n ≤ LineSet.lineCount body := by
  rw [LineSet.linesOf, List.mem_range'_1]
  omega

/-- A longer content has the lines of a shorter one. -/
theorem mem_linesOf_of_le {n : Nat} {body body' : List UInt8} (h : n ∈ LineSet.linesOf body)
    (hle : LineSet.lineCount body ≤ LineSet.lineCount body') : n ∈ LineSet.linesOf body' := by
  rw [mem_linesOf] at h ⊢
  omega

section

variable {runner : GitRunner} {range : CommitRange} {change : FileChange}

/-- A path that is read can be printed. -/
theorem PathRead.exists_printed {revision path : String} {side : SidePath} {body : List UInt8}
    (h : PathRead runner revision path side body) :
    ∃ stored, runner (blobCommand revision path) = .ok stored := by
  cases h with
  | file _ printed _ => exact ⟨_, printed⟩
  | outside _ printed _ _ => exact ⟨_, printed⟩
  | target _ printed _ _ _ => exact ⟨_, printed⟩
  | dangling _ printed _ _ _ => exact ⟨_, printed⟩

/-- The content of a path is what is stored under it, unless the path is a link. -/
theorem PathRead.link_or_stored {revision path : String} {side : SidePath} {body : List UInt8}
    {stored : GitOutput} (h : PathRead runner revision path side body)
    (hstored : runner (blobCommand revision path) = .ok stored) :
    (∃ listing, runner (treeCommand revision path) = .ok listing ∧
      startsWith listing.stdout linkMode = true) ∨ body = stored.raw := by
  cases h with
  | file _ printed _ =>
    obtain rfl := Except.ok.inj (hstored.symm.trans printed)
    exact .inr rfl
  | outside listed _ link _ => exact .inl ⟨_, listed, link⟩
  | target listed _ link _ _ => exact .inl ⟨_, listed, link⟩
  | dangling listed _ link _ _ => exact .inl ⟨_, listed, link⟩

/-- A content that has fewer lines than what is stored is that of a link. -/
theorem outruns_or_le {stored : GitOutput}
    (hread : PathRead runner range.newest change.after.name change.after change.bodyAfter)
    (hstored : runner (blobCommand range.newest change.after.name) = .ok stored) :
    OutrunsTarget runner range change ∨
      LineSet.lineCount stored.raw ≤ LineSet.lineCount change.bodyAfter := by
  by_cases hle : LineSet.lineCount stored.raw ≤ LineSet.lineCount change.bodyAfter
  · exact .inr hle
  rcases hread.link_or_stored hstored with hlink | hbody
  · exact .inl ⟨hlink, stored, hstored, by omega⟩
  · rw [hbody] at hle
    exact absurd le_rfl hle

/-- The lines of a file that is read stand where they should if they are lines of what is stored. -/
theorem linesMatch_of_readFrom {file : ChangedFile} {added : List AddedLine}
    (hfits : ∀ a ∈ added, ∀ stored, runner (blobCommand range.newest a.file) = .ok stored →
      a.line ∈ LineSet.linesOf stored.raw)
    (hread : ReadFrom runner range file change)
    (hadded : AddedTo added file change.modifiedLines) : LinesMatch runner range change := by
  have hname := hread.after.name
  have hstored : ∀ stored, runner (blobCommand range.newest change.after.name) = .ok stored →
      ∀ n ∈ change.modifiedLines, n ∈ LineSet.linesOf stored.raw := by
    intro stored hblob n hn
    obtain ⟨a, ha, hfile, rfl⟩ := hadded n hn
    rw [hfile] at hname
    have hafter : a.file = change.after.name := Option.some.inj hname
    exact hfits a ha stored (hafter ▸ hblob)
  refine ⟨hstored, fun hshort n hn => ?_⟩
  obtain ⟨a, -, hfile, -⟩ := hadded n hn
  obtain ⟨-, hside, -⟩ := hread
  rw [hfile] at hside hname
  cases hside with
  | present read =>
    have hafter : a.file = change.after.name := Option.some.inj hname
    rw [hafter] at read
    obtain ⟨stored, hblob⟩ := read.exists_printed
    rcases outruns_or_le read hblob with houtruns | hle
    · exact absurd houtruns hshort
    · exact mem_linesOf_of_le (hstored stored hblob n hn) hle

end

/-- **The changed lines of a file are lines of its content**, unless the file is a link whose text
has more lines than its target, provided that the diff fits what is stored. -/
theorem linesMatch_of_changes {runner : GitRunner} {range : CommitRange} {t t' : Trace}
    {found : List FileChange} (hfits : DiffFits runner range)
    (h : (changes runner range).Ends t (.ok found) t') :
    ∀ change ∈ found, LinesMatch runner range change := by
  rcases exists_forall₂_addedTo h with rfl | ⟨diff, files, hdiff, hfiles⟩
  · exact nofun
  intro change hchange
  obtain ⟨i, hi, rfl⟩ := List.getElem_of_mem hchange
  obtain ⟨hread, hadded⟩ := hfiles.get (hfiles.length_eq ▸ hi) hi
  exact linesMatch_of_readFrom (hfits diff hdiff) hread hadded

/-- A diff that adds a link with a text of one line. -/
def linkDiff (text : String) : GitOutput :=
  .ofText ("--- /dev/null\n+++ b/l\n@@ -0,0 +1 @@\n+".toList ++ text.toList)

/-- One commit adds that link. -/
def linkRunner (text : String) : GitRunner
  | [_, _, _, "--name-status", _, _, _, _] => .ok (.ofText "A\tl\n".toList)
  | [_, _, _, "-U0", _, _, _, _] => .ok (linkDiff text)
  | "ls-tree" :: _ => .ok (.ofText (linkMode ++ ['l']))
  | [_, _, "c:l"] => .ok (.ofText text.toList)
  | [_, _, "c:a"] => .ok (.ofText "x\ny\n".toList)
  | _ => .ok (.ofText [])

/-- The link as it is found, with its target and its content. -/
def linkChange (target? : Option String) (content : String) : FileChange :=
  ⟨.ofFile "l", ⟨"l", target?⟩, [], Utf8.encode content.toList, [1], []⟩

theorem diffFits_linkRunner {text : String} (h : text ∈ ["a", "../x"]) :
    DiffFits (linkRunner text) oneCommit := by
  have hadded : ∀ a ∈ Diff.addedLines (Utf8.decodeLossy (linkDiff text).raw),
      a.file = "l" ∧ a.line = 1 := by
    rcases List.mem_pair.mp h with rfl | rfl <;> decide +kernel
  have hcount : 1 ∈ LineSet.linesOf (GitOutput.ofText text.toList).raw := by
    rcases List.mem_pair.mp h with rfl | rfl <;> decide +kernel
  have hprinted : linkRunner text (blobCommand "c" "l") = .ok (.ofText text.toList) := by
    have hcommand : blobCommand "c" "l" = ["cat-file", "blob", "c:l"] := by decide +kernel
    rw [hcommand]
    rfl
  intro diff hdiff a ha stored hstored
  obtain rfl : linkDiff text = diff := Except.ok.inj hdiff
  obtain ⟨hfile, hline⟩ := hadded a ha
  rw [hfile] at hstored
  rw [hline]
  obtain rfl := Except.ok.inj (hprinted.symm.trans hstored)
  exact hcount

/-- The line of a link that leads to a file is a line of that file. -/
theorem linesMatch_linkRunner :
    DiffFits (linkRunner "a") oneCommit ∧ ∃ t',
      (changes (linkRunner "a") oneCommit).Ends .start (.ok [linkChange (some "a") "x\ny\n"]) t' ∧
      ∀ change ∈ [linkChange (some "a") "x\ny\n"],
        LinesMatch (linkRunner "a") oneCommit change := by
  have hfits : DiffFits (linkRunner "a") oneCommit := diffFits_linkRunner (by decide)
  have hrun : (changes (linkRunner "a") oneCommit).Ends .start
      (.ok [linkChange (some "a") "x\ny\n"]) _ := ends_of_toOption (by decide +kernel)
  exact ⟨hfits, _, hrun, linesMatch_of_changes hfits hrun⟩

/-- The line of a link that leads outside is no line of its content. -/
theorem linkRunner_outside :
    DiffFits (linkRunner "../x") oneCommit ∧ ∃ found t',
      (changes (linkRunner "../x") oneCommit).Ends .start (.ok found) t' ∧
      ∃ change ∈ found, ∃ n ∈ change.modifiedLines, n ∉ LineSet.linesOf change.bodyAfter := by
  have hrun : (changes (linkRunner "../x") oneCommit).Ends .start
      (.ok [linkChange none ""]) _ := ends_of_toOption (by decide +kernel)
  exact ⟨diffFits_linkRunner (by decide), _, _, hrun, _, List.mem_singleton_self _, 1,
    List.mem_singleton_self _, by decide⟩

end RuleDelta

import RuleDelta.Proofs.Diff.StatusRow
import RuleDelta.Proofs.Git.Reading

/-!
# Names of changed files

The changed files of a range have the names that the listing of the range has, with one exception:
the listing is read without the blanks at its ends, so the last name loses those at its end, unless
it is in quotes. The file is then looked for under another name (`readNames_of_printed`).

* `PrintsListing` says that git lists these files, and `HasNames` compares a changed file with its
  row;
* `ReadNames` says under which names the files are read, and when the listing cannot be read.
-/

namespace RuleDelta

open Run Text

/-- Git lists these files for the range. -/
def PrintsListing (runner : GitRunner) (range : CommitRange) (rows : List StatusRow) : Prop :=
  ∃ stderr, runner (diffCommand range "--name-status") =
    .ok (.ofBytes (Utf8.encode (StatusRow.listing rows)) stderr)

/-- The sides of a change have the paths of a file; a side that does not exist has that of the
other. -/
structure HasNames (file : ChangedFile) (change : FileChange) : Prop where
  before : file.before?.or file.after? = some change.before.name
  after : file.after?.or file.before? = some change.after.name

/-- The files of a listing as they are read: the last one without the blanks at its end. -/
def readRows (front : List StatusRow) (last : StatusRow) : List ChangedFile :=
  front.map StatusRow.file ++ [last.asLast]

/-- The error of a listing whose last path is lost. -/
def lostError (last : StatusRow) : Error :=
  .changeList s!"unexpected name-status line: '{String.ofList (trimEnd last.text)}'"

/-- What the names of a listing are read as. -/
structure ReadNames (runner : GitRunner) (range : CommitRange) (front : List StatusRow)
    (last : StatusRow) : Prop where
  /-- The changed files have the names that are read, and no others are asked for, given that all
  is answered that they need. -/
  returned : last.isLost = false → runner.Answers (diffCommand range "-U0") →
    (∀ file ∈ readRows front last, FileAnswered runner range file) → ∃ found,
      (changes runner range).Does (.ok found)
        (changeCalls runner range (readRows front last)) [] ∧
      List.Forall₂ HasNames (readRows front last) found
  /-- All names are kept if the last one is in quotes or ends with a visible character. -/
  kept : readRows front last = (front ++ [last]).map StatusRow.file ↔
    last.isQuoted = true ∨ trimEnd last.file.last.toList = last.file.last.toList
  /-- Nothing is returned if the last name is blank. -/
  refused : last.isLost = true → (changes runner range).Does (.error (lostError last))
    [diffCommand range "--name-status"] []

section

variable {runner : GitRunner} {range : CommitRange} {front : List StatusRow} {last : StatusRow}

theorem ReadFrom.hasNames {file : ChangedFile} {change : FileChange}
    (h : ReadFrom runner range file change) : HasNames file change :=
  ⟨h.before.name, h.after.name⟩

theorem listedFiles_of_printed (h : PrintsListing runner range (front ++ [last])) :
    listedFiles runner range =
      if last.isLost then .error (lostError last) else .ok (readRows front last) := by
  obtain ⟨stderr, hanswer⟩ := h
  have hread := StatusRow.readListing_listing front last
  rw [listedFiles, hanswer]
  change ChangedFile.readFiles (Diff.outputOf (StatusRow.listing (front ++ [last]))).stdout = _
  rw [ChangedFile.readFiles, hread]
  split <;> rfl

/-- **The changed files have the names of the listing**, but for the blanks at the end of the last
name. -/
theorem readNames_of_printed (h : PrintsListing runner range (front ++ [last])) :
    ReadNames runner range front last where
  returned hkept hdiff hfiles := by
    have hlisted : listedFiles runner range = .ok (readRows front last) := by
      rw [listedFiles_of_printed h, hkept, if_neg Bool.false_ne_true]
    obtain ⟨found, hdoes⟩ := exists_does_changes ⟨hlisted, fun _ => hdiff, hfiles⟩
    obtain ⟨t, hends, -⟩ := hdoes .start
    obtain ⟨files, hfound, hread⟩ := exists_forall₂_readFrom hends
    obtain rfl := Except.ok.inj (hlisted.symm.trans hfound)
    exact ⟨found, hdoes, hread.imp fun _ _ => ReadFrom.hasNames⟩
  kept := by
    rw [← StatusRow.asLast_eq_file_iff, readRows, List.map_append, List.map_singleton,
      List.append_cancel_left_eq, List.singleton_inj]
  refused hlost := by
    have hlisted : listedFiles runner range = .error (lostError last) := by
      rw [listedFiles_of_printed h, hlost, if_pos rfl]
    have hqueries : changeQueries runner range = [.readable (diffCommand range "--name-status")
        fun output => ChangedFile.readFiles output.stdout] := by
      rw [changeQueries, hlisted, List.append_nil]
    have hrefused : firstRefusal? runner (changeQueries runner range) = some (lostError last) := by
      rw [hqueries, firstRefusal?_singleton]
      change errorOf? (listedFiles runner range) = _
      rw [hlisted]
      rfl
    have hdoes := follows_changes.does_error hrefused
    rwa [hqueries, asked_singleton] at hdoes

end

/-- Git lists these files and has nothing else to say. -/
def listingRunner (range : CommitRange) (rows : List StatusRow) : GitRunner := fun args =>
  .ok (if args = diffCommand range "--name-status" then Diff.outputOf (StatusRow.listing rows)
    else .ofText [])

theorem printsListing_listingRunner (range : CommitRange) (rows : List StatusRow) :
    PrintsListing (listingRunner range rows) range rows :=
  ⟨[], congrArg Except.ok (if_pos rfl)⟩

theorem answers_listingRunner (range : CommitRange) (rows : List StatusRow) (args : List String) :
    (listingRunner range rows).Answers args :=
  ⟨_, rfl⟩

theorem fileAnswered_listingRunner (range : CommitRange) (rows : List StatusRow)
    (file : ChangedFile) : FileAnswered (listingRunner range rows) range file :=
  ⟨fun _ _ => ⟨⟨_, rfl⟩, ⟨_, rfl⟩⟩, fun _ _ => ⟨⟨_, rfl⟩, ⟨_, rfl⟩⟩, ⟨_, rfl⟩⟩

/-- A file that is renamed, with spaces in both names. -/
def renamedRow : StatusRow where
  file := .renamed "a b" " c"
  score := "095".toList
  digits := List.all_eq_true.mp (by decide)
  paths := by
    rintro path (hfirst | rfl)
    · obtain rfl := Option.some.inj hfirst
      decide
    · decide

/-- A file with a name in quotes that ends with a wide space. -/
def quotedRow : StatusRow where
  file := .modified "x\"\u3000"
  score := []
  digits := nofun
  paths := by
    rintro path (hfirst | rfl)
    · cases hfirst
    · decide

/-- A file with a name that ends with a wide space. -/
def wideRow : StatusRow where
  file := .added "a\u3000"
  score := []
  digits := nofun
  paths := by
    rintro path (hfirst | rfl)
    · cases hfirst
    · decide

/-- Both names are kept. -/
theorem readNames_quotedRow :
    PrintsListing (listingRunner oneCommit [renamedRow, quotedRow]) oneCommit
        [renamedRow, quotedRow] ∧
      ∃ found,
        (changes (listingRunner oneCommit [renamedRow, quotedRow]) oneCommit).Does (.ok found)
          (changeCalls (listingRunner oneCommit [renamedRow, quotedRow]) oneCommit
            [.renamed "a b" " c", .modified "x\"\u3000"]) [] ∧
        List.Forall₂ HasNames [.renamed "a b" " c", .modified "x\"\u3000"] found := by
  have hprints := printsListing_listingRunner oneCommit [renamedRow, quotedRow]
  have hread : ReadNames _ oneCommit [renamedRow] quotedRow := readNames_of_printed hprints
  have hkept : readRows [renamedRow] quotedRow = [renamedRow.file, quotedRow.file] :=
    hread.kept.mpr (.inl (by decide +kernel))
  have hreturned := hread.returned (by decide +kernel) (answers_listingRunner _ _ _)
    fun file _ => fileAnswered_listingRunner _ _ file
  rw [hkept] at hreturned
  exact ⟨hprints, hreturned⟩

/-- A file whose name ends with a wide space is looked for without it, and found under the other
name. -/
theorem wideRow_renamed :
    PrintsListing (listingRunner oneCommit [wideRow]) oneCommit [wideRow] ∧
      (∀ args, (listingRunner oneCommit [wideRow]).Answers args) ∧ ∃ change t',
        (changes (listingRunner oneCommit [wideRow]) oneCommit).Ends .start (.ok [change]) t' ∧
        change.after.name = "a" ∧ blobCommand "c" "a" ∈ t'.calls ∧
        blobCommand "c" "a\u3000" ∉ t'.calls := by
  have hrun : (changes (listingRunner oneCommit [wideRow]) oneCommit).Ends .start
      (.ok [⟨.ofFile "a", .ofFile "a", [], [], [], []⟩]) _ := ends_of_toOption (by decide +kernel)
  exact ⟨printsListing_listingRunner _ _, answers_listingRunner _ _, _, _, hrun, rfl,
    by decide +kernel, by decide +kernel⟩

end RuleDelta

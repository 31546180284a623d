import RuleDelta.Git.Change
import RuleDelta.Proofs.Diff.Table
import RuleDelta.Proofs.Git.Runner

/-!
# Changed files that a run returns

What is known of the changed files when their listing returns. The lines that a file takes from the
table of added lines are one of its rows, or none, so they ascend (`ascending_of_changes`).
-/

namespace RuleDelta

open Run

/-- The rows of the table ascend. -/
def AscendingRows (table : Diff.LineTable) : Prop :=
  ∀ row ∈ table, row.2.Pairwise (· < ·)

theorem AscendingRows.lookup {table : Diff.LineTable} (h : AscendingRows table) (path : String) :
    ((table.lookup path).getD []).Pairwise (· < ·) := by
  cases hlines : table.lookup path with
  | none => exact .nil
  | some lines =>
    obtain ⟨front, back, rfl, -⟩ := List.lookup_eq_some_iff.mp hlines
    exact h (path, lines) (by simp)

/-- Taking the lines of a file leaves ascending rows, and takes one of them. -/
theorem AscendingRows.takeLines {table : Diff.LineTable} (h : AscendingRows table)
    (file : Option String) :
    (takeLines table file).1.Pairwise (· < ·) ∧ AscendingRows (takeLines table file).2 := by
  cases file with
  | none => exact ⟨.nil, h⟩
  | some path => exact ⟨h.lookup path, fun row hrow => h row (List.mem_filter.mp hrow).1⟩

section

variable {runner : GitRunner} {range : CommitRange} {t t' : Trace}

/-- The parts of a changed file, each with the part of the run that it comes from. -/
theorem returns_readChange {file : ChangedFile} {added : List Nat} {change : FileChange}
    (h : (readChange runner range file added).Ends t (.ok change) t') :
    change.modifiedLines = added ∧ ∃ s₁ s₂,
      (readSide runner range.base file.before? (file.after?.getD "")).Ends t
        (.ok (change.before, change.bodyBefore)) s₁ ∧
      (readSide runner range.newest file.after? change.before.name).Ends s₁
        (.ok (change.after, change.bodyAfter)) s₂ ∧
      (touchingCommits runner range file).Ends s₂ (.ok change.commits) t' := by
  simp only [readChange, returns_bind, returns_pure] at h
  obtain ⟨⟨before, bodyBefore⟩, s₁, hbefore, ⟨after, bodyAfter⟩, s₂, hafter, commits, s₃, hcommits,
    rfl, rfl⟩ := h
  exact ⟨rfl, s₁, s₂, hbefore, hafter, hcommits⟩

theorem ascending_of_readChanges {table : Diff.LineTable} {files : List ChangedFile}
    {found : List FileChange} (htable : AscendingRows table)
    (h : (readChanges runner range table files).Ends t (.ok found) t') :
    ∀ change ∈ found, change.modifiedLines.Pairwise (· < ·) := by
  induction files generalizing table t found with
  | nil =>
    obtain ⟨rfl, -⟩ := returns_pure.mp h
    simp
  | cons file rest ih =>
    obtain ⟨htaken, hleft⟩ := htable.takeLines file.after?
    simp only [readChanges, returns_bind, returns_pure] at h
    obtain ⟨change, s, hchange, others, s', hothers, rfl, rfl⟩ := h
    refine List.forall_mem_cons.mpr ⟨?_, ih hleft hothers⟩
    rw [(returns_readChange hchange).1]
    exact htaken

/-- **The lines of a changed file ascend.** -/
theorem ascending_of_changes {found : List FileChange}
    (h : (changes runner range).Ends t (.ok found) t') :
    ∀ change ∈ found, change.modifiedLines.Pairwise (· < ·) := by
  simp only [changes, returns_bind] at h
  obtain ⟨status, s₁, -, files, s₂, -, h⟩ := h
  split at h
  · obtain ⟨rfl, -⟩ := returns_pure.mp h
    simp
  · simp only [returns_bind] at h
    obtain ⟨diff, s₃, -, h⟩ := h
    exact ascending_of_readChanges (Diff.tabulates_addedByFile _).ascending h

end

end RuleDelta

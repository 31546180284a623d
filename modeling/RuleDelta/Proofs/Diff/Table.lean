import Mathlib.Data.List.Pairwise
import Mathlib.Tactic.SplitIfs
import RuleDelta.Diff.AddedLine
import RuleDelta.Proofs.LineSet

/-!
# The table of added lines

`Tabulates` says what a table of line numbers by file keeps of a list of added lines: one row for
each file that has any, the files and the numbers of each row in ascending order. One more line keeps it
(`Tabulates.insertLine`), so it holds of the table of every diff (`tabulates_addedByFile`).
-/

namespace RuleDelta.Diff

/-- A table of line numbers by file. -/
abbrev LineTable := List (String × List Nat)

/-- The table holds these added lines and no others. -/
structure Tabulates (added : List AddedLine) (table : LineTable) : Prop where
  files : table.Pairwise fun row row' => row.1 < row'.1
  ascending : ∀ row ∈ table, row.2.Pairwise (· < ·)
  nonempty : ∀ row ∈ table, row.2 ≠ []
  mem : ∀ file line, (∃ row ∈ table, row.1 = file ∧ line ∈ row.2) ↔
    ∃ a ∈ added, a.file = file ∧ a.line = line

theorem Tabulates.nil : Tabulates [] [] where
  files := .nil
  ascending := by simp
  nonempty := by simp
  mem := by simp

section Insert

variable {file : String} {line : Nat} {table : LineTable}

/-- One more line is in the row of its file, and the rows keep what they had. -/
theorem exists_mem_insertLine (f : String) (l : Nat) :
    (∃ row ∈ insertLine file line table, row.1 = f ∧ l ∈ row.2) ↔
      (file = f ∧ line = l) ∨ ∃ row ∈ table, row.1 = f ∧ l ∈ row.2 := by
  induction table with
  | nil => simp [insertLine, eq_comm]
  | cons row rest ih =>
    obtain ⟨g, ls⟩ := row
    unfold insertLine
    split_ifs with hlt heq
    · simp [eq_comm]
    · subst heq
      simp only [List.mem_cons, exists_eq_or_imp, LineSet.mem_insert]
      grind
    · simp only [List.mem_cons, exists_eq_or_imp, ih]
      exact or_left_comm

theorem fst_mem_insertLine {row : String × List Nat} (h : row ∈ insertLine file line table) :
    row.1 = file ∨ ∃ row' ∈ table, row'.1 = row.1 := by
  induction table with
  | nil => exact .inl (by simp_all [insertLine])
  | cons row' rest ih =>
    obtain ⟨g, ls⟩ := row'
    unfold insertLine at h
    split_ifs at h with hlt heq
    · rcases List.mem_cons.mp h with rfl | h
      · exact .inl rfl
      · exact .inr ⟨row, h, rfl⟩
    · rcases List.mem_cons.mp h with rfl | h
      · exact .inl heq.symm
      · exact .inr ⟨row, List.mem_cons_of_mem _ h, rfl⟩
    · rcases List.mem_cons.mp h with rfl | h
      · exact .inr ⟨_, List.mem_cons_self, rfl⟩
      · rcases ih h with h | ⟨row', h, hfst⟩
        · exact .inl h
        · exact .inr ⟨row', List.mem_cons_of_mem _ h, hfst⟩

theorem insertLine_files (h : table.Pairwise fun row row' => row.1 < row'.1) :
    (insertLine file line table).Pairwise fun row row' => row.1 < row'.1 := by
  induction table with
  | nil => exact List.pairwise_singleton _ _
  | cons row rest ih =>
    obtain ⟨g, ls⟩ := row
    obtain ⟨hfirst, hrest⟩ := List.pairwise_cons.mp h
    unfold insertLine
    split_ifs with hlt heq
    · refine List.pairwise_cons.mpr ⟨fun row hrow => ?_, h⟩
      rcases List.mem_cons.mp hrow with rfl | hrow
      · exact hlt
      · exact String.lt_trans hlt (hfirst row hrow)
    · exact List.pairwise_cons.mpr ⟨hfirst, hrest⟩
    · refine List.pairwise_cons.mpr ⟨fun row hrow => ?_, ih hrest⟩
      rcases fst_mem_insertLine hrow with hfst | ⟨row', hrow', hfst⟩
      · have hle : g ≤ file := String.not_lt.mp hlt
        rw [hfst]
        exact String.not_le.mp fun hge => heq (String.le_antisymm hge hle)
      · exact hfst ▸ hfirst row' hrow'

theorem insertLine_ascending (h : ∀ row ∈ table, row.2.Pairwise (· < ·)) :
    ∀ row ∈ insertLine file line table, row.2.Pairwise (· < ·) := by
  induction table with
  | nil => simp [insertLine]
  | cons row rest ih =>
    obtain ⟨g, ls⟩ := row
    have hfirst := h _ List.mem_cons_self
    have hrest := fun row hrow => h row (List.mem_cons_of_mem _ hrow)
    unfold insertLine
    split_ifs with hlt heq
    · exact List.forall_mem_cons.mpr ⟨List.pairwise_singleton _ _, h⟩
    · exact List.forall_mem_cons.mpr ⟨LineSet.insert_ascending hfirst, hrest⟩
    · exact List.forall_mem_cons.mpr ⟨hfirst, ih hrest⟩

theorem insertLine_nonempty (h : ∀ row ∈ table, row.2 ≠ []) :
    ∀ row ∈ insertLine file line table, row.2 ≠ [] := by
  induction table with
  | nil => simp [insertLine]
  | cons row rest ih =>
    obtain ⟨g, ls⟩ := row
    have hfirst := h _ List.mem_cons_self
    have hrest := fun row hrow => h row (List.mem_cons_of_mem _ hrow)
    unfold insertLine
    split_ifs with hlt heq
    · exact List.forall_mem_cons.mpr ⟨by simp, h⟩
    · refine List.forall_mem_cons.mpr ⟨List.ne_nil_of_mem (a := line) ?_, hrest⟩
      exact LineSet.mem_insert.mpr (.inl rfl)
    · exact List.forall_mem_cons.mpr ⟨hfirst, ih hrest⟩

end Insert

/-- **One more line is one more in the table.** -/
theorem Tabulates.insertLine {added : List AddedLine} {table : LineTable}
    (h : Tabulates added table) (a : AddedLine) :
    Tabulates (added ++ [a]) (insertLine a.file a.line table) where
  files := insertLine_files h.files
  ascending := insertLine_ascending h.ascending
  nonempty := insertLine_nonempty h.nonempty
  mem f l := by
    rw [exists_mem_insertLine, h.mem f l]
    simp only [List.mem_append, List.mem_singleton, or_and_right, exists_or, exists_eq_left]
    exact or_comm

theorem tabulates_foldl {added more : List AddedLine} {table : LineTable}
    (h : Tabulates added table) :
    Tabulates (added ++ more)
      (more.foldl (fun table a => Diff.insertLine a.file a.line table) table) := by
  induction more generalizing added table with
  | nil => simpa using h
  | cons a rest ih => simpa using ih (h.insertLine a)

/-- The table of a diff holds its added lines. -/
theorem tabulates_addedByFile (diff : List Char) :
    Tabulates (addedLines diff) (addedByFile diff) :=
  tabulates_foldl .nil

theorem mem_of_lookup_eq_some {table : LineTable} {file : String} {ls : List Nat}
    (h : table.lookup file = some ls) : (file, ls) ∈ table := by
  obtain ⟨front, back, rfl, -⟩ := List.lookup_eq_some_iff.mp h
  simp

namespace Tabulates

variable {added : List AddedLine} {table : LineTable}

/-- A file has one row. -/
theorem eq_of_fst_eq (h : Tabulates added table) {row row' : String × List Nat} (hrow : row ∈ table)
    (hrow' : row' ∈ table) (heq : row.1 = row'.1) : row = row' := by
  have hne : table.Pairwise fun row row' => row.1 ≠ row'.1 := by
    refine h.files.imp fun {row row'} hlt heq => ?_
    rw [heq] at hlt
    exact String.lt_irrefl _ hlt
  have : Std.Symm fun row row' : String × List Nat => row.1 ≠ row'.1 := ⟨fun _ _ h => h.symm⟩
  by_contra hdiff
  exact hne.forall hrow hrow' hdiff heq

/-- The members of the row of a file are the lines that are added to it. -/
theorem mem_row (h : Tabulates added table) {file : String} {ls : List Nat}
    (hrow : (file, ls) ∈ table) (line : Nat) :
    line ∈ ls ↔ ∃ a ∈ added, a.file = file ∧ a.line = line := by
  rw [← h.mem]
  constructor
  · exact fun hline => ⟨_, hrow, rfl, hline⟩
  · rintro ⟨row, hmem, hfst, hline⟩
    rwa [h.eq_of_fst_eq hmem hrow hfst] at hline

/-- What is found under a file are the lines that are added to it. -/
theorem mem_lookup (h : Tabulates added table) {file : String} {line : Nat} :
    line ∈ (table.lookup file).getD [] ↔ ∃ a ∈ added, a.file = file ∧ a.line = line := by
  rw [← h.mem]
  constructor
  · intro hline
    cases hlookup : table.lookup file with
    | none => simp [hlookup] at hline
    | some ls =>
      rw [hlookup, Option.getD_some] at hline
      exact ⟨(file, ls), mem_of_lookup_eq_some hlookup, rfl, hline⟩
  · rintro ⟨row, hrow, rfl, hline⟩
    cases hlookup : table.lookup row.1 with
    | none => simpa using List.lookup_eq_none_iff.mp hlookup row hrow
    | some ls =>
      have heq := h.eq_of_fst_eq hrow (mem_of_lookup_eq_some hlookup) rfl
      rwa [heq] at hline

/-- **The row of a file is the ascending list of the lines that are added to it**, if there are
any. -/
theorem mem_iff (h : Tabulates added table) {file : String} {ls ms : List Nat}
    (hms : ms.Pairwise (· < ·))
    (hmem : ∀ line, line ∈ ms ↔ ∃ a ∈ added, a.file = file ∧ a.line = line) :
    (file, ls) ∈ table ↔ ls = ms ∧ ms ≠ [] := by
  constructor
  · intro hrow
    have heq : ls = ms := LineSet.eq_of_ascending (h.ascending _ hrow) hms fun line => by
      rw [h.mem_row hrow, hmem]
    exact ⟨heq, heq ▸ h.nonempty _ hrow⟩
  · rintro ⟨rfl, hne⟩
    obtain ⟨line, hline⟩ := List.exists_mem_of_ne_nil _ hne
    obtain ⟨⟨file', ls'⟩, hrow, rfl, -⟩ := (h.mem file line).mpr ((hmem line).mp hline)
    have heq : ls' = ls := LineSet.eq_of_ascending (h.ascending _ hrow) hms fun line => by
      rw [h.mem_row hrow, hmem]
    exact heq ▸ hrow

end Tabulates

end RuleDelta.Diff

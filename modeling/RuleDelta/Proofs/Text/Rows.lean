import RuleDelta.Text.Line

/-!
# Texts written row by row

A text that is written as rows, each with a line feed behind it, has these rows for its lines
(`lines_unlines`). Only a carriage return at the end of a row is lost.
-/

namespace RuleDelta.Text

/-- The text that holds these rows, each with a line feed behind it. -/
def unlines (rows : List (List Char)) : List Char :=
  rows.flatMap (· ++ ['\n'])

/-- A row without a carriage return at its end. -/
def dropReturn (row : List Char) : List Char :=
  if row.getLast? = some '\r' then row.dropLast else row

/-- A carriage return at the end of a row is not the end of what stands in front of the row. -/
theorem dropReturn_append_of_getLast?_ne {front : List Char} (h : front.getLast? ≠ some '\r')
    (row : List Char) : dropReturn (front ++ row) = front ++ dropReturn row := by
  by_cases hrow : row = []
  · rw [hrow, List.append_nil, dropReturn, if_neg h]
    exact (List.append_nil front).symm
  · have hlast : (front ++ row).getLast? = row.getLast? := by
      rw [List.getLast?_append, List.getLast?_eq_some_getLast hrow, Option.some_or]
    unfold dropReturn
    rw [hlast, List.dropLast_append_of_ne_nil hrow]
    split <;> rfl

theorem dropReturn_cons {c : Char} (h : c ≠ '\r') (row : List Char) :
    dropReturn (c :: row) = c :: dropReturn row :=
  have hlast : [c].getLast? ≠ some '\r' := by simpa using h
  dropReturn_append_of_getLast?_ne hlast row

theorem dropReturn_append {front : List Char} (h : '\r' ∉ front) (row : List Char) :
    dropReturn (front ++ row) = front ++ dropReturn row :=
  dropReturn_append_of_getLast?_ne (fun hlast => h (List.mem_of_getLast? hlast)) row

theorem dropReturn_eq_self {row : List Char} (h : '\r' ∉ row) : dropReturn row = row := by
  simpa [dropReturn] using dropReturn_append h []

theorem dropEnding_append (row : List Char) : dropEnding (row ++ ['\n']) = dropReturn row := by
  simp [dropEnding, dropReturn]

/-- A row with a line feed behind it is the first piece of a text. -/
theorem pieces_append {row : List Char} (h : '\n' ∉ row) (rest : List Char) :
    pieces (row ++ '\n' :: rest) = (row ++ ['\n']) :: pieces rest := by
  induction row with
  | nil => simp [pieces]
  | cons c row ih =>
    have hc : c ≠ '\n' := fun heq => h (by simp [heq])
    have hrow : '\n' ∉ row := fun hmem => h (List.mem_cons_of_mem _ hmem)
    simp [pieces, hc, ih hrow]

/-- Rows in front of a text are its first lines, up to a carriage return at the end of each. -/
theorem lines_unlines_append {rows : List (List Char)} (h : ∀ row ∈ rows, '\n' ∉ row)
    (s : List Char) : lines (unlines rows ++ s) = rows.map dropReturn ++ lines s := by
  induction rows with
  | nil => rfl
  | cons row rows ih =>
    obtain ⟨hrow, hrows⟩ := List.forall_mem_cons.mp h
    have hcons : unlines (row :: rows) ++ s = row ++ '\n' :: (unlines rows ++ s) := by
      simp [unlines]
    rw [hcons, lines, pieces_append hrow, List.map_cons, List.map_cons, dropEnding_append,
      List.cons_append, ← ih hrows, lines]

/-- **The rows of a text are its lines**, up to a carriage return at the end of each. -/
theorem lines_unlines {rows : List (List Char)} (h : ∀ row ∈ rows, '\n' ∉ row) :
    lines (unlines rows) = rows.map dropReturn := by
  simpa [lines] using lines_unlines_append h []

/-- A text without a line feed is its only line. -/
theorem lines_eq_singleton {s : List Char} (hne : s ≠ []) (h : '\n' ∉ s) : lines s = [s] := by
  have hpieces : pieces s = [s] := by
    induction s with
    | nil => exact absurd rfl hne
    | cons c s ih =>
      have hc : c ≠ '\n' := fun heq => h (by simp [heq])
      have hs : '\n' ∉ s := fun hmem => h (List.mem_cons_of_mem _ hmem)
      cases s with
      | nil => simp [pieces, hc]
      | cons d s => rw [pieces, if_neg hc, ih (List.cons_ne_nil _ _) hs]
  have hlast : s.getLast? ≠ some '\n' := fun heq => h (List.mem_of_getLast? heq)
  rw [lines, hpieces, List.map_singleton, dropEnding, if_neg hlast]

/-- What stands behind a line feed is cut apart from what stands in front of it. -/
theorem pieces_append_newline (s t : List Char) :
    pieces (s ++ '\n' :: t) = pieces (s ++ ['\n']) ++ pieces t := by
  induction s with
  | nil => simp [pieces]
  | cons c s ih =>
    have hne : pieces (s ++ ['\n']) ≠ [] := by
      intro hnil
      have hflat := flatten_pieces (s ++ ['\n'])
      rw [hnil] at hflat
      simp at hflat
    obtain ⟨p, ps, hp⟩ := List.exists_cons_of_ne_nil hne
    by_cases hc : c = '\n'
    · simp [pieces, hc, ih]
    · simp [pieces, hc, ih, hp]

/-- A text whose last line is ended keeps its lines in front of another text. -/
theorem lines_append {s : List Char} (h : s = [] ∨ s.getLast? = some '\n') (t : List Char) :
    lines (s ++ t) = lines s ++ lines t := by
  rcases h with rfl | hlast
  · rfl
  · obtain ⟨s, rfl⟩ := List.getLast?_eq_some_iff.mp hlast
    rw [List.append_assoc, List.singleton_append, lines, pieces_append_newline, List.map_append]
    rfl

/-- A word at the start of a text stands at the start of its first line. -/
theorem exists_lines_word {word : List Char} (hne : word ≠ []) (hfeed : '\n' ∉ word)
    (hreturn : word.getLast? ≠ some '\r') (s : List Char) :
    ∃ line rest, lines (word ++ s) = (word ++ line) :: rest := by
  by_cases hs : '\n' ∈ s
  · obtain ⟨row, rest, rfl, hrow⟩ := List.eq_append_cons_of_mem hs
    have hfront : '\n' ∉ word ++ row := by simp [hfeed, hrow]
    refine ⟨dropReturn row, lines rest, ?_⟩
    rw [← List.append_assoc, lines, pieces_append hfront, List.map_cons, dropEnding_append,
      dropReturn_append_of_getLast?_ne hreturn, lines]
  · refine ⟨s, [], lines_eq_singleton (by simp [hne]) ?_⟩
    simp [hfeed, hs]

end RuleDelta.Text

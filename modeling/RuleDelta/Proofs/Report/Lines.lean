import Mathlib
import RuleDelta.Change.Classification
import RuleDelta.Proofs.LineSet.Written
import RuleDelta.Proofs.Text.Line
import RuleDelta.Proofs.Text.Rows
import RuleDelta.Proofs.Text.Split
import RuleDelta.Report.Text
import RuleDelta.RuleFile.Parse

/-!
# The lines of a report

A report as text shows each entry, an empty line, and a summary that counts the entries by their
states. The path and the name of a rule are copied as they are, so an entry takes one line more for
each line feed in them, and the report has one line for each entry exactly if there are none.

* `entryLines` are the lines of an entry, and `lineFeeds` says how many they are;
* `Counts` says what a summary counts;
* `OneLineEach` is the report as one would expect it, and `reportLines_text` says what it is and
  when it is as expected.
-/

namespace RuleDelta.Report

open Text

/-! ## The lines of an entry -/

/-- What the line of an entry starts with: its state, its path and a colon. -/
def opening (e : Entry) : List Char :=
  (padded 9 e.state.name).toList ++ ' ' :: e.reportedPath.toList ++ [':']

/-- The line of an entry behind its path. -/
def remainder (e : Entry) : List Char :=
  (linesText e.modifiedLines).toList ++ ' ' :: e.rule.kind.name.toList ++
    ' ' :: (nameText e.rule.name).toList

/-- The lines that an entry takes in a report. -/
def entryLines (e : Entry) : List (List Char) :=
  lines (entryLine e).toList

/-- The number of line feeds in the path of an entry and in the name of its rule. -/
def lineFeeds (e : Entry) : Nat :=
  e.reportedPath.toList.count '\n' + e.rule.name.toList.count '\n'

theorem toList_entryLine (e : Entry) :
    (entryLine e).toList = opening e ++ remainder e ++ ['\n'] := by
  unfold entryLine opening remainder
  simp [toString, String.toList_append]

theorem count_linesText (numbers : List Nat) : (linesText numbers).toList.count '\n' = 0 := by
  unfold linesText
  split
  · decide
  · rw [List.count_eq_zero, LineSet.toList_render]
    refine not_mem_intercalate (by decide) (List.forall_mem_map.mpr fun r _ => ?_)
    exact LineSet.not_mem_render_range (by decide) (by decide) r

theorem count_nameText (name : String) :
    (nameText name).toList.count '\n' = name.toList.count '\n' := by
  unfold nameText
  split
  case isTrue h =>
    rw [String.isEmpty_iff.mp h]
    decide
  case isFalse => rfl

/-- The words that a report adds have no line feed. -/
theorem count_row (e : Entry) : (opening e ++ remainder e).count '\n' = lineFeeds e := by
  have hstate : (padded 9 e.state.name).toList.count '\n' = 0 := by
    cases e.state <;> decide
  have hkind : e.rule.kind.name.toList.count '\n' = 0 := by
    cases e.rule.kind <;> decide
  simp [opening, remainder, lineFeeds, hstate, hkind, count_linesText, count_nameText]

theorem length_lines_append_newline (s : List Char) :
    (lines (s ++ ['\n'])).length = s.count '\n' + 1 := by
  rw [length_lines]
  induction s with
  | nil => rfl
  | cons c s ih =>
    rw [List.cons_append, length_pieces_cons, ih, List.count_cons]
    by_cases h : c = '\n' <;> simp [h]

theorem length_entryLines (e : Entry) : (entryLines e).length = lineFeeds e + 1 := by
  rw [entryLines, toList_entryLine, length_lines_append_newline, count_row]

/-- The lines of an entry start with its state and its path if the path is in one line. -/
theorem exists_entryLines {e : Entry} (h : '\n' ∉ e.reportedPath.toList) :
    ∃ line rest, entryLines e = (opening e ++ line) :: rest := by
  have hstate : '\n' ∉ (padded 9 e.state.name).toList := by
    cases e.state <;> decide
  have hopening : '\n' ∉ opening e := by
    simp [opening, hstate, h]
  have hreturn : (opening e).getLast? ≠ some '\r' := by
    rw [opening, List.getLast?_concat]
    decide
  rw [entryLines, toList_entryLine, List.append_assoc]
  exact exists_lines_word (by simp [opening]) hopening hreturn _

/-! ## The summary -/

/-- A summary of some entries: how many they are, and how many of each state. -/
def summary (entries : Nat) (counts : List (ChangeState × Nat)) : String :=
  s!"{entries} rule(s): " ++ ", ".intercalate (counts.map fun p => s!"{p.2} {p.1.name}")

/-- Some entries counted by their states, in the order of reports and without states that no entry
has. -/
structure Counts (entries : List Entry) (counts : List (ChangeState × Nat)) : Prop where
  sublist : (counts.map Prod.fst).Sublist countedStates
  count : ∀ p ∈ counts, p.2 = entries.countP fun e => e.state == p.1
  pos : ∀ p ∈ counts, 0 < p.2
  /-- Each entry is counted once. -/
  sum_eq : (counts.map Prod.snd).sum = entries.length

/-- How many entries have each state. -/
def allCounts (entries : List Entry) : List (ChangeState × Nat) :=
  countedStates.map fun state => (state, entries.countP fun e => e.state == state)

/-- How many entries have each state that some entry has. -/
def stateCounts (entries : List Entry) : List (ChangeState × Nat) :=
  (allCounts entries).filter fun p => 0 < p.2

theorem summaryLine_eq (entries : List Entry) :
    summaryLine entries = summary entries.length (stateCounts entries) ++ "\n" := by
  have hcounts : countedStates.filterMap (stateCount? entries) =
      (stateCounts entries).map fun p => s!"{p.2} {p.1.name}" := by
    rw [stateCounts, allCounts, List.filter_map, List.map_map, ← List.filterMap_eq_map,
      List.filterMap_filter]
    refine List.filterMap_congr fun state _ => ?_
    unfold stateCount?
    by_cases h : entries.countP (fun e => e.state == state) = 0
    · simp [h]
    · simp [h, Nat.pos_of_ne_zero h]
  rw [summaryLine, hcounts, summary]

/-- Each entry is counted for its own state only. -/
theorem sum_allCounts {entries : List Entry} (hknown : ∀ e ∈ entries, e.state ≠ .unknown) :
    ((allCounts entries).map Prod.snd).sum = entries.length := by
  induction entries with
  | nil => rfl
  | cons e entries ih =>
    obtain ⟨he, hentries⟩ := List.forall_mem_cons.mp hknown
    have ih := ih hentries
    simp only [allCounts, countedStates, List.map_cons, List.map_nil, List.sum_cons,
      List.sum_nil, List.countP_cons, List.length_cons] at ih ⊢
    cases hstate : e.state
    case unknown => exact absurd hstate he
    all_goals simp; omega

/-- States that no entry has do not matter to the sum. -/
theorem sum_filter_pos (counts : List (ChangeState × Nat)) :
    ((counts.filter fun p => 0 < p.2).map Prod.snd).sum = (counts.map Prod.snd).sum := by
  induction counts with
  | nil => rfl
  | cons p counts ih =>
    by_cases h : 0 < p.2
    · simp [h, ih]
    · have hzero : p.2 = 0 := by omega
      simp [hzero, ih]

theorem counts_stateCounts {entries : List Entry} (hknown : ∀ e ∈ entries, e.state ≠ .unknown) :
    Counts entries (stateCounts entries) where
  sublist := by
    have hall : (allCounts entries).map Prod.fst = countedStates := by
      rw [allCounts, List.map_map]
      exact List.map_id' _
    rw [← hall]
    exact List.filter_sublist.map Prod.fst
  count p hp := by
    obtain ⟨state, -, rfl⟩ := List.mem_map.mp (List.mem_filter.mp hp).1
    rfl
  pos p hp := of_decide_eq_true (List.mem_filter.mp hp).2
  sum_eq := by rw [stateCounts, sum_filter_pos, sum_allCounts hknown]

/-- A summary is written in one line. -/
theorem not_mem_summary {c : Char} (h : c = '\n' ∨ c = '\r') (n : Nat)
    (counts : List (ChangeState × Nat)) : c ∉ (summary n counts).toList := by
  have hdigits := not_mem_toDigits (c := c) (by rcases h with rfl | rfl <;> rfl)
  have hname (state : ChangeState) : c ∉ state.name.toList := by
    rcases h with rfl | rfl <;> cases state <;> decide
  have hblank : c ∉ " ".toList ∧ c ∉ " rule(s): ".toList ∧ c ∉ ", ".toList := by
    rcases h with rfl | rfl <;> decide
  have hlist : c ∉ (", ".intercalate (counts.map fun p => s!"{p.2} {p.1.name}")).toList := by
    rw [String.toList_intercalate, List.map_map]
    refine not_mem_intercalate hblank.2.2 ?_
    rw [List.forall_mem_map]
    exact fun p _ => by simpa [toString, String.toList_append, hdigits, hname] using hblank.1
  rw [summary, String.toList_append, List.mem_append, not_or]
  exact ⟨by simpa [toString, String.toList_append, hdigits] using hblank.2.1, hlist⟩

/-! ## The report -/

/-- A report with one line for each entry, then an empty line and a summary. -/
def OneLineEach (entries : List Entry) (report : List (List Char)) : Prop :=
  ∃ rows counts, report = rows ++ [[], (summary entries.length counts).toList] ∧
    List.Forall₂ (fun e line => opening e <+: line) entries rows ∧ Counts entries counts

/-- What the lines of a report are, and when there is one for each entry. -/
structure ReportLines (entries : List Entry) (report : List (List Char)) : Prop where
  eq_append : ∃ counts, Counts entries counts ∧
    report = entries.flatMap entryLines ++ [[], (summary entries.length counts).toList]
  /-- An entry takes one line more for each line feed in its path and its name. -/
  length_eq : report.length = entries.length + (entries.map lineFeeds).sum + 2
  oneLineEach_iff : OneLineEach entries report ↔
    ∀ e ∈ entries, '\n' ∉ e.reportedPath.toList ∧ '\n' ∉ e.rule.name.toList

theorem lineFeeds_eq_zero_iff {e : Entry} :
    lineFeeds e = 0 ↔ '\n' ∉ e.reportedPath.toList ∧ '\n' ∉ e.rule.name.toList := by
  rw [lineFeeds, Nat.add_eq_zero_iff, List.count_eq_zero, List.count_eq_zero]

/-- Each entry ends its last line, so its lines are those of its own text. -/
theorem lines_join_entryLine (entries : List Entry) (s : List Char) :
    lines ((String.join (entries.map entryLine)).toList ++ s) =
      entries.flatMap entryLines ++ lines s := by
  rw [String.toList_join]
  induction entries with
  | nil => rfl
  | cons e entries ih =>
    have hlast : (entryLine e).toList.getLast? = some '\n' := by
      rw [toList_entryLine, List.getLast?_concat]
    rw [List.map_cons, List.flatMap_cons, List.append_assoc, lines_append (.inr hlast), ih,
      List.flatMap_cons, List.append_assoc, entryLines]

theorem lines_summaryLine (entries : List Entry) : lines ('\n' :: (summaryLine entries).toList) =
    [[], (summary entries.length (stateCounts entries)).toList] := by
  generalize hs : summary entries.length (stateCounts entries) = s
  have hfeed : '\n' ∉ s.toList := hs ▸ not_mem_summary (.inl rfl) _ _
  have hreturn : '\r' ∉ s.toList := hs ▸ not_mem_summary (.inr rfl) _ _
  have hrows : '\n' :: (summaryLine entries).toList = unlines [[], s.toList] := by
    simp [summaryLine_eq, hs, unlines]
  rw [hrows, lines_unlines (by simp [hfeed]), List.map_cons, List.map_singleton,
    dropReturn_eq_self hreturn]
  rfl

theorem lines_text {entries : List Entry} (hne : entries ≠ []) :
    lines (text entries).toList = entries.flatMap entryLines ++
      [[], (summary entries.length (stateCounts entries)).toList] := by
  rw [← lines_summaryLine, ← lines_join_entryLine, text, if_neg (by simpa using hne)]
  simp

theorem length_flatMap_entryLines (entries : List Entry) :
    (entries.flatMap entryLines).length = entries.length + (entries.map lineFeeds).sum := by
  induction entries with
  | nil => rfl
  | cons e entries ih =>
    rw [List.flatMap_cons, List.length_append, ih, length_entryLines, List.length_cons,
      List.map_cons, List.sum_cons]
    omega

/-- Entries without line feeds take one line each. -/
theorem forall₂_entryLines {entries : List Entry} (h : ∀ e ∈ entries,
      '\n' ∉ e.reportedPath.toList ∧ '\n' ∉ e.rule.name.toList) :
    List.Forall₂ (fun e line => opening e <+: line) entries (entries.flatMap entryLines) := by
  induction entries with
  | nil => exact .nil
  | cons e entries ih =>
    obtain ⟨he, hentries⟩ := List.forall_mem_cons.mp h
    obtain ⟨line, rest, hlines⟩ := exists_entryLines he.1
    have hlength := length_entryLines e
    rw [hlines, lineFeeds_eq_zero_iff.mpr he, List.length_cons] at hlength
    have hrest : rest = [] := List.length_eq_zero_iff.mp (by omega)
    rw [List.flatMap_cons, hlines, hrest]
    exact .cons (List.prefix_append _ _) (ih hentries)

/-- **A report has one line for each entry exactly if no path and no name holds a line feed**, and
in any case its lines are those of its entries, an empty one, and a summary that adds up. -/
theorem reportLines_text {entries : List Entry} (hne : entries ≠ [])
    (hknown : ∀ e ∈ entries, e.state ≠ .unknown) :
    ReportLines entries (lines (text entries).toList) := by
  have hcounts := counts_stateCounts hknown
  have hlines := lines_text hne
  have hlength : (lines (text entries).toList).length =
      entries.length + (entries.map lineFeeds).sum + 2 := by
    rw [hlines, List.length_append, length_flatMap_entryLines]
    rfl
  refine ⟨⟨_, hcounts, hlines⟩, hlength, ?_⟩
  constructor
  · rintro ⟨rows, counts, hreport, hrows, -⟩ e he
    -- with a line for each entry, no lines are left for line feeds
    have hrowsLength := hrows.length_eq
    rw [hreport, List.length_append, List.length_cons, List.length_singleton] at hlength
    have hsum : (entries.map lineFeeds).sum = 0 := by omega
    exact lineFeeds_eq_zero_iff.mp
      (List.sum_eq_zero_iff_forall_eq_nat.mp hsum _ (List.mem_map_of_mem he))
  · intro h
    exact ⟨_, _, hlines, forall₂_entryLines h, hcounts⟩

/-- Three rules of a file: one is changed, one is as before, and one is new and has no name. -/
def sampleEntries : List Entry :=
  let entry (name : String) (state : ChangeState) (modifiedLines : List Nat) : Entry :=
    { Entry.ofRule "a.yml" "a.yml" ⟨name, .alerting, .between 4 6, .null⟩ with
      state, modifiedLines }
  [entry "Down" .modified [5, 6], entry "Up" .excluded [], entry "" .added [4]]

/-- The report of these rules. -/
def sampleReport : String :=
  "modified  a.yml:5-6 alerting Down\n" ++
  "excluded  a.yml:- alerting Up\n" ++
  "added     a.yml:4 alerting <anonymous>\n" ++
  "\n3 rule(s): 1 added, 1 modified, 1 excluded\n"

theorem reportLines_sampleReport :
    sampleEntries ≠ [] ∧ (∀ e ∈ sampleEntries, e.state ≠ .unknown) ∧
      text sampleEntries = sampleReport ∧
      ReportLines sampleEntries (lines sampleReport.toList) := by
  have hne : sampleEntries ≠ [] := List.cons_ne_nil _ _
  have hknown : ∀ e ∈ sampleEntries, e.state ≠ .unknown := by decide
  have htext : text sampleEntries = sampleReport := by decide +kernel
  exact ⟨hne, hknown, htext, htext ▸ reportLines_text hne hknown⟩

/-! ## A name of two lines -/

/-- A new file with one rule, whose name has a line feed. -/
def twoLineChange : FileChange where
  before := .ofFile "a.yml"
  after := .ofFile "a.yml"
  bodyBefore := []
  bodyAfter := Utf8.encode "rules:\n- alert: \"a\\nb\"\n".toList
  modifiedLines := [1, 2]
  commits := ["c"]

/-- The entry of that rule. -/
def twoLineEntry : Entry where
  sourcePath := "a.yml"
  reportedPath := "a.yml"
  rule := .ofBody (.single 2) (.mapping [(.string "alert", .string "a\nb")])
  state := .added
  modifiedLines := [2]
  pathError := none

/-- The report of a rule that was read from a file and classified has a line more than expected. -/
theorem twoLineEntry_unexpected :
    (∃ after, RuleFile.parse "a.yml" "a.yml" twoLineChange.bodyAfter .strict = .ok after ∧
      classifyAll twoLineChange [] after = [twoLineEntry]) ∧
    text [twoLineEntry] = "added     a.yml:2 alerting a\nb\n\n1 rule(s): 1 added\n" ∧
    ¬OneLineEach [twoLineEntry] (lines (text [twoLineEntry]).toList) := by
  have htext : text [twoLineEntry] =
      "added     a.yml:2 alerting a\nb\n\n1 rule(s): 1 added\n" := by cbv
  refine ⟨⟨_, by cbv, by cbv⟩, htext, ?_⟩
  rintro ⟨rows, counts, hreport, hrows, -⟩
  have hlength := congrArg List.length hreport
  rw [htext, List.length_append, ← hrows.length_eq, List.length_cons, List.length_cons,
    List.length_singleton] at hlength
  exact absurd hlength (by decide)

end RuleDelta.Report

import RuleDelta.Change.Classification
import RuleDelta.Proofs.Change.Pairing
import RuleDelta.Proofs.LineSet
import RuleDelta.Proofs.RuleFile.Range

/-!
# The lines of what became of a rule

The state of a classified rule determines the lines that are reported for it.

* `RuleFile.Holds` says that a rule is read from a content;
* `Entry.LinesFit` says which lines an entry of a change reports;
* `Entry.Reports` adds which side the rule is read from and under which path, and
  `reports_of_classify` proves both.
-/

namespace RuleDelta

open RuleFile

/-! ## The rules of a side -/

/-- The rule is one of those that are read from a content. -/
def RuleFile.Holds (reader : YamlReader) (mode : ParseMode) (content : List UInt8) (r : Rule) :
    Prop :=
  ∃ rules, rulesOfBytes reader mode content = .ok rules ∧ r ∈ rules

/-- The entry is that of a rule as it is read from the content of a path. -/
structure Entry.IsReadFrom (reader : YamlReader) (mode : ParseMode) (path : String)
    (content : List UInt8) (e : Entry) : Prop where
  source : e.sourcePath = path
  holds : Holds reader mode content e.rule
  /-- It reports all lines of its rule. -/
  whole : e.modifiedLines = e.rule.lines.toList

theorem RuleFile.isReadFrom_of_parseWith {reader : YamlReader} {sourcePath shownPath : String}
    {content : List UInt8} {mode : ParseMode} {entries : List Entry}
    (h : parseWith reader sourcePath shownPath content mode = .ok entries) :
    ∀ e ∈ entries, e.IsReadFrom reader mode sourcePath content := by
  obtain ⟨rules, hrules, rfl⟩ := parseWith_eq_ok h
  intro e he
  obtain ⟨r, hr, rfl⟩ := List.mem_map.mp he
  exact ⟨rfl, ⟨rules, hrules, hr⟩, rfl⟩

/-! ## The lines of an entry -/

namespace Entry

/-- The lines that an entry of a change reports are those that its state asks for. -/
def LinesFit (change : FileChange) (e : Entry) : Prop :=
  match e.state with
  | .unknown => False
  | .excluded => e.modifiedLines = []
  | .moved =>
    e.modifiedLines = List.range' 1 (LineSet.lineCount change.bodyAfter) ∧
      1 ≤ e.rule.lines.first ∧ e.rule.lines.last ≤ LineSet.lineCount change.bodyAfter
  | .added | .modified =>
    e.modifiedLines = change.modifiedLines.filter fun line =>
      e.rule.lines.first ≤ line ∧ line ≤ e.rule.lines.last
  | .removed =>
    e.modifiedLines = List.range' e.rule.lines.first (e.rule.lines.last + 1 - e.rule.lines.first)

/-- The lines of an entry ascend if those of its change do. -/
theorem LinesFit.ascending {change : FileChange} {e : Entry} (h : e.LinesFit change)
    (hchange : change.modifiedLines.Pairwise (· < ·)) : e.modifiedLines.Pairwise (· < ·) := by
  unfold LinesFit at h
  split at h
  · exact h.elim
  · rw [h]
    exact .nil
  · rw [h.1]
    exact List.pairwise_lt_range'
  · rw [h]
    exact hchange.filter _
  · rw [h]
    exact hchange.filter _
  · rw [h]
    exact List.pairwise_lt_range'

/-- What an entry of a change says about its rule. -/
structure Reports (reader : YamlReader) (change : FileChange) (e : Entry) : Prop where
  /-- A rule that is gone is one of the old content, and has the path that this comes from. -/
  before : e.state = .removed → e.sourcePath = change.before.effective ∧
    ∃ mode, Holds reader mode change.bodyBefore e.rule
  /-- Any other rule is one of the new content, and has the path that this comes from. -/
  after : e.state ≠ .removed → e.sourcePath = change.after.effective ∧
    Holds reader .strict change.bodyAfter e.rule
  lines : e.LinesFit change

/-- The path that an entry shows does not count. -/
theorem Reports.reportedAs {reader : YamlReader} {change : FileChange} {e : Entry}
    (h : e.Reports reader change) (path : String) : (e.reportedAs path).Reports reader change :=
  ⟨h.before, h.after, h.lines⟩

/-! ## Classification -/

/-- The lines of a rule that a change adds are those of its lines that lie within the rule. -/
theorem modifiedLines_changedBy {change : FileChange} {e : Entry}
    (hwhole : e.modifiedLines = e.rule.lines.toList)
    (hchange : change.modifiedLines.Pairwise (· < ·)) (state : ChangeState) :
    (e.changedBy change state).modifiedLines = change.modifiedLines.filter fun line =>
      e.rule.lines.first ≤ line ∧ line ≤ e.rule.lines.last := by
  have hnodup : change.modifiedLines.Nodup := hchange.imp Nat.ne_of_lt
  calc (e.changedBy change state).modifiedLines
      = LineSet.intersect change.modifiedLines e.rule.lines.toList := by rw [← hwhole]; rfl
    _ = change.modifiedLines.filter e.rule.lines.toList.contains :=
      LineSet.intersect_of_nodup hnodup
    _ = _ := by
      refine List.filter_congr fun line _ => ?_
      rw [Bool.eq_iff_iff, List.contains_iff_mem, LineRange.mem_toList, LineRange.mem_iff,
        decide_eq_true_iff]

end Entry

section

variable {reader : YamlReader} {change : FileChange}

/-- A rule that is only on the new side, or says something else there, reports the lines that the
change adds. -/
theorem reports_changedBy {a : Entry} {state : ChangeState}
    (hstate : state = .added ∨ state = .modified)
    (hread : a.IsReadFrom reader .strict change.after.effective change.bodyAfter)
    (hchange : change.modifiedLines.Pairwise (· < ·)) :
    (a.changedBy change state).Reports reader change := by
  have hlines := Entry.modifiedLines_changedBy hread.whole hchange state
  rcases hstate with rfl | rfl
  · exact ⟨nofun, fun _ => ⟨hread.source, hread.holds⟩, hlines⟩
  · exact ⟨nofun, fun _ => ⟨hread.source, hread.holds⟩, hlines⟩

/-- A rule on both sides is moved, excluded or modified. -/
theorem reports_keptEntry {a : Entry} (p : Pairing)
    (hread : a.IsReadFrom reader .strict change.after.effective change.bodyAfter)
    (hchange : change.modifiedLines.Pairwise (· < ·)) :
    (p.keptEntry change a).Reports reader change := by
  unfold Pairing.keptEntry
  split
  · obtain ⟨rules, hrules, hmem⟩ := hread.holds
    exact ⟨nofun, fun _ => ⟨hread.source, rules, hrules, hmem⟩, rfl,
      mem_bounds_of_rulesOfBytes hrules hmem⟩
  · split
    · exact ⟨nofun, fun _ => ⟨hread.source, hread.holds⟩, rfl⟩
    · exact reports_changedBy (.inr rfl) hread hchange

/-- **The entry of a pairing reports the lines that its state asks for.** -/
theorem reports_of_classify {p : Pairing} {e : Entry} {mode : ParseMode}
    (hbefore : ∀ b, p.before? = some b →
      b.IsReadFrom reader mode change.before.effective change.bodyBefore)
    (hafter : ∀ a, p.after? = some a →
      a.IsReadFrom reader .strict change.after.effective change.bodyAfter)
    (hchange : change.modifiedLines.Pairwise (· < ·)) (h : classify change p = some e) :
    e.Reports reader change := by
  unfold classify at h
  split at h
  · rename_i a _ ha
    rw [← Option.some.inj h]
    exact reports_changedBy (.inl rfl) (hafter a ha) hchange
  · rename_i a _ ha
    rw [← Option.some.inj h]
    exact reports_keptEntry p (hafter a ha) hchange
  · rename_i b hb _
    have hread := hbefore b hb
    rw [← Option.some.inj h]
    exact ⟨fun _ => ⟨hread.source, mode, hread.holds⟩, fun hne => absurd rfl hne, hread.whole⟩
  · cases h

end

end RuleDelta

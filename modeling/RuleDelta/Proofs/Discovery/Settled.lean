import RuleDelta.Proofs.Change.SameRules
import RuleDelta.Proofs.Discovery.Mirror
import RuleDelta.Proofs.RuleFile.DistinctKeys

/-!
# Files whose rules say the same

A changed file with the same rules on both sides, in any order, has nothing to check: its entries
are all excluded or, when the content is read from another path, all moved (`readFile_settles`).
Comments and blank lines may come and go, and rules may change places.
-/

namespace RuleDelta

open Run RuleFile Text

/-- A settled entry has the rule of the new side. -/
theorem forall₂_rule_settled (change : FileChange) (after : List Entry) :
    List.Forall₂ (fun e a => e.rule = a.rule) (after.map (Entry.settled change)) after := by
  refine List.forall₂_map_left_iff.mpr (List.forall₂_same.mpr fun a _ => ?_)
  unfold Entry.settled
  split <;> rfl

namespace Finder

/-- **A changed file with the same rules on both sides has only entries that are excluded or
moved.** There is one for each rule of the new side, whatever the order of the rules and however
often one of them comes. -/
theorem readFile_settles {f : Finder} {reader : YamlReader} {change : FileChange}
    {before after : List Entry} (hparser : f.parser = parseWith reader)
    (hreader : reader.KeepsKeysApart) (hallowed : f.filter.allows change.after.name = true)
    (hbefore : f.parseBefore change = .ok before) (hafter : f.parseAfter change = .ok after)
    (hnamed : ∀ a ∈ after, a.rule.name ≠ "") (hsame : SameRules before after) :
    ∃ entries, (f.readFile change).Does (.ok entries) [] (entries.map .classified) ∧
      List.Forall₂ (fun e a => e.rule = a.rule) entries after ∧
      ∀ e ∈ entries,
        (change.before.effective = change.after.effective →
          e.state = .excluded ∧ e.modifiedLines = []) ∧
        (change.before.effective ≠ change.after.effective →
          e.state = .moved ∧
            e.modifiedLines = List.range' 1 (LineSet.lineCount change.bodyAfter)) := by
  have hdoes := (Yields.read hallowed (.inl hbefore) hafter).does
  rw [parseBefore, hparser] at hbefore
  rw [parseAfter, hparser] at hafter
  have hsettled := map_classify_of_sameRules
    (fun b hb => (isReadFrom_of_parseWith hbefore b hb).source)
    (fun a ha => (isReadFrom_of_parseWith hafter a ha).source) hnamed
    (distinctKeys_of_strict hreader hafter) hsame
  refine ⟨after.map (Entry.settled change), ?_, forall₂_rule_settled change after, ?_⟩
  · rwa [classifyAll, filterMap_eq_of_map_eq hsettled, map_classifyEvent hsettled] at hdoes
  · intro e he
    obtain ⟨a, -, rfl⟩ := List.mem_map.mp he
    refine ⟨fun hpath => ?_, fun hpath => ?_⟩
    · rw [Entry.settled, if_pos hpath]
      exact ⟨rfl, rfl⟩
    · rw [Entry.settled, if_neg hpath]
      exact ⟨rfl, rfl⟩

end Finder

/-! ## A file that is renamed with its rules shuffled -/

/-- A file with two rules, one of them twice, is renamed, and its rules change places. -/
def shuffledChange : FileChange where
  before := .ofFile "b"
  after := .ofFile "a"
  bodyBefore := Utf8.encode "rules:\n- alert: x\n- record: y\n- alert: x\n".toList
  bodyAfter := Utf8.encode "rules:\n- record: y\n\n- alert: x\n- alert: x\n".toList
  modifiedLines := []
  commits := []

/-- The entry of a rule of that file that only has a name. -/
def shuffledEntry (path key name : String) (line : Nat) : Entry :=
  .ofRule path path (.ofBody (.single line) (.mapping [(.string key, .string name)]))

/-- Entries of that file with one key and one name have the same rule. -/
theorem sameRule_shuffledEntry (path path' key name : String) (line line' : Nat) :
    (shuffledEntry path key name line).SameRule (shuffledEntry path' key name line') := by
  refine Rule.isIdentical_iff.mpr ⟨rfl, rfl, ?_⟩
  simp [shuffledEntry, Entry.ofRule, Rule.ofBody, Yaml.Value.same, Yaml.Value.entriesIn]

/-- The entries of the old side. -/
def shuffledBefore : List Entry :=
  [shuffledEntry "b" "alert" "x" 2, shuffledEntry "b" "record" "y" 3,
    shuffledEntry "b" "alert" "x" 4]

/-- The entries of the new side. -/
def shuffledAfter : List Entry :=
  [shuffledEntry "a" "record" "y" 2, shuffledEntry "a" "alert" "x" 4,
    shuffledEntry "a" "alert" "x" 5]

theorem sameRules_shuffled : SameRules shuffledBefore shuffledAfter := by
  refine .of_forall₂ [shuffledEntry "b" "record" "y" 3, shuffledEntry "b" "alert" "x" 2,
    shuffledEntry "b" "alert" "x" 4] ?_ (.swap _ _ _)
  exact .cons (sameRule_shuffledEntry ..) (.cons (sameRule_shuffledEntry ..)
    (.cons (sameRule_shuffledEntry ..) .nil))

/-- Each rule of the new side is moved, and all five lines of the file are reported for it. -/
theorem readFile_settles_shuffled :
    renamedFinder.parser = parseWith yamlReader ∧ yamlReader.KeepsKeysApart ∧
    renamedFinder.filter.allows shuffledChange.after.name = true ∧
    renamedFinder.parseBefore shuffledChange = .ok shuffledBefore ∧
    renamedFinder.parseAfter shuffledChange = .ok shuffledAfter ∧
    (∀ a ∈ shuffledAfter, a.rule.name ≠ "") ∧ SameRules shuffledBefore shuffledAfter ∧
    ∃ entries, (renamedFinder.readFile shuffledChange).Does (.ok entries) []
        (entries.map .classified) ∧
      List.Forall₂ (fun e a => e.rule = a.rule) entries shuffledAfter ∧
      ∀ e ∈ entries, e.state = .moved ∧ e.modifiedLines = [1, 2, 3, 4, 5] := by
  have hallowed : renamedFinder.filter.allows shuffledChange.after.name = true := by cbv
  have hbefore : renamedFinder.parseBefore shuffledChange = .ok shuffledBefore := by cbv
  have hafter : renamedFinder.parseAfter shuffledChange = .ok shuffledAfter := by cbv
  have hnamed : ∀ a ∈ shuffledAfter, a.rule.name ≠ "" := by
    simp [shuffledAfter, shuffledEntry, Entry.ofRule, Rule.ofBody, Rule.kindAndName,
      Yaml.Value.field?, Yaml.Value.text?, Yaml.Value.untagged]
  obtain ⟨entries, hdoes, hrules, hsettled⟩ := Finder.readFile_settles rfl
    keepsKeysApart_yamlReader hallowed hbefore hafter hnamed sameRules_shuffled
  have hmoved : shuffledChange.before.effective ≠ shuffledChange.after.effective := by decide
  have hlines : List.range' 1 (LineSet.lineCount shuffledChange.bodyAfter) = [1, 2, 3, 4, 5] := by
    decide
  refine ⟨rfl, keepsKeysApart_yamlReader, hallowed, hbefore, hafter, hnamed, sameRules_shuffled,
    entries, hdoes, hrules, fun e he => ?_⟩
  rw [← hlines]
  exact (hsettled e he).2 hmoved

end RuleDelta

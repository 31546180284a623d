import RuleDelta.Proofs.Change.Priority
import RuleDelta.Proofs.Discovery.Finder

/-!
# Added and removed rules

A rule that a changed file had before is not reported as new: of the rules without a partner, those
of one side never say the same as those of the other. It holds of the pairings of any two sides, and
of the entries that a run finds in a changed file.
-/

namespace RuleDelta

open Run Text

/-- **No named rule is added and, saying the same, removed.** -/
theorem addedRules_notRemoved :
    (∀ before after : List Entry, ∀ p ∈ pairEntries before after, ∀ q ∈ pairEntries before after,
      ∀ a b, p.before? = none → p.after? = some a → a.rule.name ≠ "" →
        q.before? = some b → q.after? = none → a.rule.Differs b.rule) ∧
    ∀ (f : Finder) (change : FileChange) (t t' : Trace) (entries : List Entry),
      (f.readFile change).Ends t (.ok entries) t' → ∀ e ∈ entries, ∀ e' ∈ entries,
        e.state = .added → e.rule.name ≠ "" → e'.state = .removed → e.rule.Differs e'.rule := by
  constructor
  · intro before after p hp q hq a b hpb hpa hnamed hqb hqa
    exact differs_of_unpaired hp hpb hpa hnamed hq hqb hqa
  · intro f change t t' entries h e he e' he' hadded hnamed hremoved
    rcases Finder.returns_readFile h with rfl | ⟨before, after, -, -, -, -, rfl⟩
    · cases he
    · exact differs_of_added_of_removed he hadded hnamed he' hremoved

/-- A file with two rules of one name, in place of which there is a third one. -/
def replacedChange : FileChange where
  before := .ofFile "a"
  after := .ofFile "a"
  bodyBefore := Utf8.encode "rules:\n- alert: A\n  expr: x\n- alert: A\n  expr: y\n".toList
  bodyAfter := Utf8.encode "rules:\n- alert: A\n  expr: w\n".toList
  modifiedLines := [3]
  commits := []

/-- The entry of a rule of that file. -/
def replacedEntry (expr : String) (first : Nat) (state : ChangeState) (lines : List Nat) :
    Entry where
  sourcePath := "a"
  reportedPath := "a"
  rule := .ofBody (.between first (first + 1))
    (.mapping [(.string "alert", .string "A"), (.string "expr", .string expr)])
  state
  modifiedLines := lines
  pathError := none

theorem readFile_replacedChange :
    ((renamedFinder.readFile replacedChange).outcome .start).1 =
      .ok [replacedEntry "w" 2 .added [3], replacedEntry "x" 2 .removed [2, 3],
        replacedEntry "y" 4 .removed [4, 5]] := by
  cbv

theorem addedRules_replacedChange : ∃ t',
    (renamedFinder.readFile replacedChange).Ends .start
      (.ok [replacedEntry "w" 2 .added [3], replacedEntry "x" 2 .removed [2, 3],
        replacedEntry "y" 4 .removed [4, 5]]) t' ∧
    (replacedEntry "w" 2 .added [3]).rule.Differs (replacedEntry "x" 2 .removed [2, 3]).rule := by
  have hrun := ends_outcome readFile_replacedChange
  have hnamed : (replacedEntry "w" 2 .added [3]).rule.name ≠ "" := by decide
  exact ⟨_, hrun, addedRules_notRemoved.2 _ _ _ _ _ hrun _ (by simp) _ (by simp) rfl hnamed rfl⟩

end RuleDelta

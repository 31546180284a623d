import RuleDelta.Git.Runner

/-!
# Commits

The commits of the current branch that the base branch does not have, and their messages.
-/

namespace RuleDelta

open Text

/-- The commits to look at. -/
structure CommitRange where
  /-- The oldest commit. -/
  oldest : String
  /-- The newest commit. -/
  newest : String
  /-- All commits, oldest first. -/
  commits : List String
  deriving DecidableEq, Repr

namespace CommitRange

/-- The revision that the range is compared with: the parent of the oldest commit. -/
def base (r : CommitRange) : String :=
  r.oldest ++ "^"

/-- The range of some commits, if there are any. -/
def ofCommits? (commits : List String) : Option CommitRange :=
  match commits with
  | [] => none
  | oldest :: rest => some ⟨oldest, rest.getLastD oldest, commits⟩

end CommitRange

/-- The commits that the lines of an output name. -/
def commitsOf (output : GitOutput) : List String :=
  ((output.lines.map trim).filter fun line => !line.isEmpty).map String.ofList

/-- The commits since the base branch. There has to be one. -/
def commitRange (runner : GitRunner) (baseBranch : String) : Run CommitRange := do
  let output ← git runner
    ["log", "--format=%H", "--no-abbrev-commit", "--reverse", baseBranch ++ "..HEAD"]
  match CommitRange.ofCommits? (commitsOf output) with
  | some range => return range
  | none => throw (.git s!"empty commit range: no commits on HEAD since {baseBranch}")

/-- The message of a commit. -/
def commitMessage (runner : GitRunner) (commit : String) : Run (List Char) := do
  return (← git runner ["show", "-s", "--format=%B", commit]).stdout

end RuleDelta

import RuleDelta.Change.Classification
import RuleDelta.Config.Basic
import RuleDelta.Discovery.SkipMarker

/-!
# Discovery

The rules that a branch touches. A run takes the commits since the base branch, reads the files that
they change, stops when a commit says so, pairs the rules of both sides of each file that counts,
and adds the rules that links lead to.

* `Finder` holds what a run works with, and `Finder.ofConfig` makes one;
* `Finder.find` is a run.
-/

namespace RuleDelta

/-- What finds the entries that links lead to, given the entries so far. -/
abbrev AliasResolver := List Entry → Except Error (List Entry)

/-- No links. -/
def noAliases : AliasResolver := fun _ => .ok []

/-- What a run works with. -/
structure Finder where
  runner : GitRunner
  parser : RuleParser
  resolver : AliasResolver
  baseBranch : String
  maxCommits : Nat
  filter : PathFilter
  /-- The patterns of the paths whose old version is read leniently. -/
  relaxed : PatternList

namespace Finder

/-- The finder of a configuration. Patterns that cannot be read are refused. -/
def ofConfig (patterns : PatternReader) (runner : GitRunner) (parser : RuleParser)
    (resolver : AliasResolver) (c : Config) : Except ConfigError Finder := do
  let filter ← c.pathFilter patterns
  let relaxed ← c.relaxedPatterns patterns
  return {
    runner, parser, resolver
    baseBranch := c.baseBranch
    maxCommits := c.maxCommits
    filter, relaxed }

/-- The commits to look at, if there are not too many. -/
def readRange (f : Finder) : Run CommitRange := do
  let range ← Run.mapError (fun e => .commitRange e.message) (commitRange f.runner f.baseBranch)
  Run.emit (.commitRangeResolved range.oldest range.newest range.commits.length)
  if f.maxCommits < range.commits.length then
    throw (.tooManyCommits range.commits.length f.maxCommits)
  return range

/-- An error in place of one that ended the listing of changed files. -/
def changeListError : Error → Error
  | .changeList reason => .changeList reason
  | e => .changeList e.message

/-- The rules of the old side of a file. A side that cannot be read has no rules. -/
def readBefore (f : Finder) (change : FileChange) : Run (List Entry) :=
  let mode := if f.relaxed.matchesAny change.before.name then ParseMode.lenient else .strict
  match f.parser change.before.effective change.before.name change.bodyBefore mode with
  | .ok entries => return entries
  | .error (.refused _) => return []
  | .error .broken => throw .broken

/-- The rules of the new side of a file. -/
def readAfter (f : Finder) (change : FileChange) : Run (List Entry) :=
  match f.parser change.after.effective change.after.name change.bodyAfter .strict with
  | .ok entries => return entries
  | .error (.refused e) => throw (.invalidSyntax e)
  | .error .broken => throw .broken

/-- The entries of pairings, each reported as it is found. -/
def classifyPairings (change : FileChange) : List Pairing → Run (List Entry)
  | [] => return []
  | p :: ps => do
    Run.emit (classifyEvent change p)
    return (classify change p).toList ++ (← classifyPairings change ps)

/-- The entries of a changed file. -/
def readFile (f : Finder) (change : FileChange) : Run (List Entry) := do
  if !f.filter.allows change.after.name then
    Run.emit (.fileSkipped change.after.name)
    return []
  let before ← f.readBefore change
  let after ← f.readAfter change
  classifyPairings change (pairEntries before after)

/-- The entries of changed files. -/
def readFiles (f : Finder) : List FileChange → Run (List Entry)
  | [] => return []
  | change :: rest => do
    let entries ← f.readFile change
    return entries ++ (← f.readFiles rest)

/-- An error in place of one that ended the search for links. -/
def aliasError : Error → Error
  | .symlink reason => .symlink reason
  | e => .symlink e.message

/-- The aliases that count, each reported. -/
def keepAliases (f : Finder) : List Entry → Run (List Entry)
  | [] => return []
  | e :: rest =>
    if f.filter.allows e.reportedPath then do
      Run.emit (.aliasAdded e.reportedPath e.sourcePath)
      return e :: (← f.keepAliases rest)
    else f.keepAliases rest

/-- The entries with those that links lead to. -/
def addAliases (f : Finder) (entries : List Entry) : Run (List Entry) := do
  let aliases ← liftExcept ((f.resolver entries).mapError aliasError)
  return entries ++ (← f.keepAliases aliases)

/-- The rules that the branch touches. -/
def find (f : Finder) : Run (List Entry) := do
  Run.emit (.started f.baseBranch)
  let range ← f.readRange
  let files ← Run.mapError changeListError (changes f.runner range)
  match ← skipMarker? f.runner files with
  | some (commit, marker) => do
    Run.emit (.skipMarkerFound commit marker)
    return []
  | none => do f.addAliases (← f.readFiles files)

end Finder

end RuleDelta

import RuleDelta.Diff.AddedLine
import RuleDelta.Diff.FileStatus
import RuleDelta.Git.Commit
import RuleDelta.Git.LinkTarget

/-!
# Changed files

The files that a range of commits changes, each with its content on both sides, the lines that the
range adds to it, and the commits that touch it.

* `FileChange` is a changed file;
* `changes` are the changed files of a range.
-/

namespace RuleDelta

open Text

/-- A path on one side of a change. -/
structure SidePath where
  /-- The path of the file. -/
  name : String
  /-- The path that the file is a link to, if it is one. -/
  target? : Option String
  deriving DecidableEq, Repr

namespace SidePath

/-- The path of a file that is no link. -/
def ofFile (name : String) : SidePath := ⟨name, none⟩

/-- The path that the content comes from. -/
def effective (p : SidePath) : String :=
  p.target?.getD p.name

end SidePath

/-- A changed file. -/
structure FileChange where
  before : SidePath
  after : SidePath
  /-- The old content; empty for a new file. -/
  bodyBefore : List UInt8
  /-- The new content; empty for a file that is gone. -/
  bodyAfter : List UInt8
  /-- The lines of the new content that are new or changed, in ascending order. -/
  modifiedLines : List Nat
  /-- The commits that touch the file, newest first. -/
  commits : List String
  deriving DecidableEq, Repr

/-- The files of a listing. -/
def ChangedFile.readFiles (listing : List Char) : Except Error (List ChangedFile) :=
  (readListing listing).mapError fun line =>
    .changeList s!"unexpected name-status line: '{String.ofList line}'"

/-- What starts the listing of a link. -/
def linkMode : List Char := "120000 ".toList

/-- The content of a path at a revision. -/
def blob (runner : GitRunner) (revision path : String) : Run GitOutput :=
  git runner ["cat-file", "blob", s!"{revision}:{path}"]

/-- A path at a revision with its content. A link has the content of its target; if there is none to
be had, it is empty. -/
def readPath (runner : GitRunner) (revision path : String) : Run (SidePath × List UInt8) := do
  let listing ← git runner ["ls-tree", revision, "--", path]
  let content ← blob runner revision path
  if !startsWith listing.stdout linkMode then return (.ofFile path, content.raw)
  match linkTarget? path.toList content.stdout with
  | none => do
    Run.warn "symlink points outside of the repository"
      [("path", path), ("link", String.ofList content.stdout)]
    return (.ofFile path, [])
  | some target => do
    let target := String.ofList target
    tryCatch
      (do return (⟨path, some target⟩, (← blob runner revision target).raw))
      fun e => do
        Run.warn "symlink target cannot be read"
          [("path", path), ("target", target), ("error", e.message)]
        return (⟨path, some target⟩, [])

/-- One side of a changed file. A side that does not exist has the path of the other and no
content. -/
def readSide (runner : GitRunner) (revision : String) (path? : Option String) (other : String) :
    Run (SidePath × List UInt8) :=
  match path? with
  | some path => readPath runner revision path
  | none => return (.ofFile other, [])

/-- The arguments with one more, unless they hold it already. -/
def addArgument (args : List String) (arg : String) : List String :=
  if args.contains arg then args else args ++ [arg]

/-- The command that lists the commits of a range that touch a file. -/
def touchingCommand (range : CommitRange) (file : ChangedFile) : List String :=
  (file.before?.toList ++ file.after?.toList).foldl addArgument
    ["log", "--format=%H", s!"{range.base}..{range.newest}", "--"]

/-- The commits of a range that touch a file. -/
def touchingCommits (runner : GitRunner) (range : CommitRange) (file : ChangedFile) :
    Run (List String) := do
  return (← git runner (touchingCommand range file)).lines.map String.ofList

/-- A changed file of a range, given the lines that the range adds to it. -/
def readChange (runner : GitRunner) (range : CommitRange) (file : ChangedFile)
    (added : List Nat) : Run FileChange := do
  let (before, bodyBefore) ←
    readSide runner range.base file.before? (file.after?.getD "")
  let (after, bodyAfter) ← readSide runner range.newest file.after? before.name
  let commits ← touchingCommits runner range file
  return ⟨before, after, bodyBefore, bodyAfter, added, commits⟩

/-- The lines that a table lists under a file, and the table without them. -/
def takeLines (table : List (String × List Nat)) (file : Option String) :
    List Nat × List (String × List Nat) :=
  match file with
  | none => ([], table)
  | some path => ((table.lookup path).getD [], table.filter fun (f, _) => f ≠ path)

/-- The changed files of a range, given the table of the lines that it adds. The first file of a
path takes its lines. -/
def readChanges (runner : GitRunner) (range : CommitRange) (table : List (String × List Nat)) :
    List ChangedFile → Run (List FileChange)
  | [] => return []
  | file :: rest => do
    let (added, table) := takeLines table file.after?
    let change ← readChange runner range file added
    return change :: (← readChanges runner range table rest)

/-- The command that compares the ends of a range, with an option for what to print. -/
def diffCommand (range : CommitRange) (option : String) : List String :=
  ["-c", "core.quotepath=off", "diff", option, "-M", "--no-color", range.base, range.newest]

/-- The changed files of a range. -/
def changes (runner : GitRunner) (range : CommitRange) : Run (List FileChange) := do
  let status ← git runner (diffCommand range "--name-status")
  let files ← liftExcept (ChangedFile.readFiles status.stdout)
  if files.isEmpty then return []
  let diff ← git runner (diffCommand range "-U0")
  readChanges runner range (Diff.addedByFile (Utf8.decodeLossy diff.raw)) files

end RuleDelta

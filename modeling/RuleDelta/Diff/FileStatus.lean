import RuleDelta.Diff.Path
import RuleDelta.Text.Blank
import RuleDelta.Text.Line

/-!
# Listings of changed files

A listing has one line per file: a status and one or two paths between tabs. `ChangedFile` is such
a line by its meaning, and `readListing` reads a whole listing or names its first bad line.
-/

namespace RuleDelta

open Text

/-- What happened to a file between two revisions. -/
inductive ChangedFile
  /-- The file is new. -/
  | added (path : String)
  /-- The content changed. -/
  | modified (path : String)
  /-- The file became a link, or a link became a file. -/
  | typeChanged (path : String)
  /-- The file is gone. -/
  | deleted (path : String)
  /-- The file has another path. -/
  | renamed (source target : String)
  /-- The file is new and resembles another. -/
  | copied (source target : String)
  deriving DecidableEq, Repr

namespace ChangedFile

/-- The path at the older revision. -/
def before? : ChangedFile → Option String
  | added _ => none
  | modified path | typeChanged path | deleted path => some path
  | renamed source _ | copied source _ => some source

/-- The path at the newer revision. -/
def after? : ChangedFile → Option String
  | deleted _ => none
  | added path | modified path | typeChanged path => some path
  | renamed _ target | copied _ target => some target

/-- The file of a status letter and the paths behind it. -/
def ofFields? (letter : Char) (first : String) (second? : Option String) : Option ChangedFile :=
  match letter, second? with
  | 'A', none => some (added first)
  | 'M', none => some (modified first)
  | 'T', none => some (typeChanged first)
  | 'D', none => some (deleted first)
  | 'R', some target => some (renamed first target)
  | 'C', some target => some (copied first target)
  | _, _ => none

/-- A path field of a listing. -/
def readPath (field : List Char) : String :=
  String.ofList (Path.unquote field)

/-- The file that one line of a listing describes. Fields behind the second path are ignored. -/
def readLine? (line : List Char) : Option ChangedFile :=
  match splitAt '\t' line with
  | (letter :: _) :: first :: rest => ofFields? letter (readPath first) (rest.head?.map readPath)
  | _ => none

/-- The files of a listing in its order, or its first line that describes none. Blank lines are
skipped. -/
def readListing (listing : List Char) : Except (List Char) (List ChangedFile) :=
  ((lines listing).filter fun line => !allBlank line).mapM fun line =>
    match readLine? line with
    | some file => .ok file
    | none => .error line

end ChangedFile

end RuleDelta

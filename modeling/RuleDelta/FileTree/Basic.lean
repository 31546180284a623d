import RuleDelta.Text.Split
import RuleDelta.Text.Utf8

/-!
# File trees

Directories, files and links, each at a place: the names that lead to it from the top. A path is a
text of names between slashes. It is followed from the top when it starts with a slash and from a
directory otherwise, and a link on the way stands for its target.

* `FileTree` is a tree and `FileFault` what may be wrong with a path;
* `FileTree.walk` follows the parts of a path;
* `FileTree.resolve` is the place that a path leads to.
-/

namespace RuleDelta

open Text

/-- The names that lead from the top to a directory, a file or a link. -/
abbrev Place := List (List Char)

/-- The path of a place. -/
def Place.render (place : Place) : List Char :=
  '/' :: ['/'].intercalate place

/-- Whether a place does not come after another: by the first name that differs. -/
def Place.le (a b : Place) : Bool :=
  !List.lex b a fun x y => List.lex x y fun c d => decide (c < d)

/-- What is at a place. -/
inductive FileNode
  | directory
  | file (content : List UInt8)
  /-- A link with its target. -/
  | link (target : List Char)
  deriving DecidableEq, Repr

/-- What may be wrong with a path. -/
inductive FileFault
  /-- Nothing is there. -/
  | missing
  /-- Something on the way is no directory. -/
  | notDirectory
  /-- A directory is where a file has to be. -/
  | isDirectory
  | nameTooLong
  | tooManyLinks
  /-- The content of the file is no text. -/
  | notText
  /-- The path has a character that no path can have. -/
  | zeroCharacter
  deriving DecidableEq, Repr

/-- The wording of a fault. -/
def FileFault.message : FileFault → String
  | missing => "No such file or directory (os error 2)"
  | notDirectory => "Not a directory (os error 20)"
  | isDirectory => "Is a directory (os error 21)"
  | nameTooLong => "File name too long (os error 36)"
  | tooManyLinks => "Too many levels of symbolic links (os error 40)"
  | notText => "stream did not contain valid UTF-8"
  | zeroCharacter => "file name contained an unexpected NUL byte"

/-- A file tree: what is at its places. The top is a directory. -/
structure FileTree where
  nodes : List (Place × FileNode)
  deriving DecidableEq, Repr

namespace FileTree

/-- A tree with nothing below its top. -/
def empty : FileTree := ⟨[]⟩

/-- What is at a place, if there is something. -/
def node? (t : FileTree) (place : Place) : Option FileNode :=
  if place.isEmpty then some .directory else t.nodes.lookup place

/-- Whether a directory is at a place. -/
def isDirectory (t : FileTree) (place : Place) : Bool :=
  t.node? place == some .directory

/-- The tree with something at a place, whatever was there. -/
def put (t : FileTree) (place : Place) (node : FileNode) : FileTree where
  nodes := (place, node) :: t.nodes.filter fun (other, _) => other ≠ place

/-- The largest number of bytes in a name. -/
def maxNameSize : Nat := 255

/-- The largest number of links on one way. -/
def maxLinks : Nat := 40

/-- The directory that a path starts from, seen from a directory. -/
def start (here : Place) (path : List Char) : Place :=
  if path.head? == some '/' then [] else here

/-- The place that parts lead to from a directory over a number of links at most. A place for a new
file may be missing at the end of the way, but not with a slash behind its name. -/
def walk (t : FileTree) (forNew : Bool) (links : Nat) (here : Place) :
    List (List Char) → Except FileFault Place
  | [] => .ok here
  | part :: rest =>
    if !t.isDirectory here then
      if forNew && (part :: rest).all List.isEmpty then .error .isDirectory
      else .error .notDirectory
    else if part = [] || part = ['.'] then walk t forNew links here rest
    else if part = ['.', '.'] then walk t forNew links here.dropLast rest
    else if maxNameSize < (Utf8.encode part).length then .error .nameTooLong
    else
      match t.node? (here ++ [part]) with
      | some (.link target) =>
        match links with
        | 0 => .error .tooManyLinks
        | links + 1 => walk t forNew links (start here target) (splitAt '/' target ++ rest)
      | some _ => walk t forNew links (here ++ [part]) rest
      | none =>
        if !(forNew && rest.all List.isEmpty) then .error .missing
        else if rest.isEmpty then .ok (here ++ [part])
        else .error .isDirectory
termination_by parts => (links, parts.length)

/-- Refuses a path that leads nowhere from anywhere, and follows another. -/
def follow (t : FileTree) (forNew : Bool) (here : Place) (path : List Char) :
    Except FileFault Place :=
  if path.contains (Char.ofNat 0) then .error .zeroCharacter
  else if path.isEmpty then .error .missing
  else t.walk forNew maxLinks (start here path) (splitAt '/' path)

/-- The place that a path leads to from a directory. -/
def resolve (t : FileTree) (here : Place) (path : List Char) : Except FileFault Place :=
  t.follow false here path

end FileTree

end RuleDelta

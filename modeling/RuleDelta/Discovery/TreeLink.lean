import RuleDelta.Diff.Path
import RuleDelta.Discovery.Finder
import RuleDelta.FileTree.Basic

/-!
# Links of a working tree

A rule file that a link in the working tree leads to is reported under the path of the link too.

* `findLinks` are the links below a root that lead to places below it, by ascending paths;
* `aliasesOf` are the entries that links lead to;
* `treeAliases` finds the links and the entries.
-/

namespace RuleDelta

/-- A link in a working tree. Both paths start at its root. -/
structure TreeLink where
  path : String
  target : String
  deriving DecidableEq, Repr

/-- The name of the directory that git keeps its own files in. -/
def gitDirectory : List Char := ".git".toList

/-- The path from a root to a place below it, with forward slashes. -/
def relativePath? (root place : Place) : Option String :=
  (root.isPrefixOf? place).map fun parts =>
    String.ofList (Path.normalize (['/'].intercalate parts))

namespace FileTree

/-- Whether a place below a root is one to look at. -/
def isVisited (root place : Place) : Bool :=
  match root.isPrefixOf? place with
  | none | some [] => false
  | some parts => !parts.contains gitDirectory

/-- The links below a root with their targets, by ascending places. -/
def linksBelow (t : FileTree) (root : Place) : List (Place × List Char) :=
  let links := t.nodes.filterMap fun (place, node) =>
    match node with
    | .link target => if isVisited root place then some (place, target) else none
    | .directory | .file _ => none
  List.mergeSort links fun a b => a.1.le b.1

/-- The link at a place, if it leads to a place below the root. -/
def treeLink? (t : FileTree) (root place : Place) : Except Error (Option TreeLink) :=
  match t.resolve [] place.render with
  | .error fault =>
    .error (.symlink
      s!"{String.ofList place.render}: cannot evaluate symlink: {fault.message}")
  | .ok target => .ok do
    let path ← relativePath? root place
    let target ← relativePath? root target
    return ⟨path, target⟩

/-- The links below a root that lead to places below it, by ascending paths. -/
def findLinks (t : FileTree) (here : Place) (root : List Char) : Except Error (List TreeLink) :=
  match t.resolve here root with
  | .error fault => .error (.symlink s!"{String.ofList root}: {fault.message}")
  | .ok top => do
    let links ← (t.linksBelow top).mapM fun (place, _) => t.treeLink? top place
    return links.filterMap id

end FileTree

/-- The entries that links lead to. An entry that is gone or whose path is at fault has none. -/
def aliasesOf (links : List TreeLink) (entries : List Entry) : List Entry :=
  entries.flatMap fun e =>
    if e.state == .removed || e.pathError.isSome then []
    else (links.filter fun link => link.target == e.sourcePath).map fun link =>
      e.reportedAs link.path

/-- The entries that the links of a working tree lead to. -/
def treeAliases (t : FileTree) (here : Place) (root : List Char) : AliasResolver := fun entries =>
  (t.findLinks here root).map fun links => aliasesOf links entries

end RuleDelta

import RuleDelta.FileTree.Basic

/-!
# Files of a tree

Reading files, writing at their ends, and making them.

* `FileTree.readText` reads a file as a text;
* `FileTree.openAtEnd` finds or makes a file, and `FileTree.append` writes at its end;
* `FileTree.makeDirectories` makes what is missing on a way, and `FileTree.addFile` and
  `FileTree.addLink` put a file and a link behind it.
-/

namespace RuleDelta.FileTree

open Text

/-- The bytes of a file. -/
def readBytes (t : FileTree) (here : Place) (path : List Char) :
    Except FileFault (List UInt8) := do
  match t.node? (← t.resolve here path) with
  | some (.file content) => return content
  | some .directory => throw .isDirectory
  | some (.link _) | none => throw .missing

/-- The text of a file. -/
def readText (t : FileTree) (here : Place) (path : List Char) : Except FileFault (List Char) := do
  match Utf8.decode (← t.readBytes here path) with
  | .ok text => return text
  | .error _ => throw .notText

/-- Whether a path leads to a file. -/
def isFile (t : FileTree) (here : Place) (path : List Char) : Bool :=
  (t.readBytes here path).toBool

/-- The place of a file to write to, and the tree with the file, which is empty if it is new. -/
def openAtEnd (t : FileTree) (here : Place) (path : List Char) :
    Except FileFault (Place × FileTree) := do
  let place ← t.follow true here path
  match t.node? place with
  | some (.file _) => return (place, t)
  | none => return (place, t.put place (.file []))
  | some .directory | some (.link _) => throw .isDirectory

/-- The tree with more bytes at the end of a file. -/
def append (t : FileTree) (place : Place) (bytes : List UInt8) : FileTree :=
  match t.node? place with
  | some (.file content) => t.put place (.file (content ++ bytes))
  | _ => t

/-- The tree with a directory at each part of a way, and the place that the way leads to. -/
def makeDirectories (t : FileTree) (here : Place) : List (List Char) → FileTree × Place
  | [] => (t, here)
  | part :: rest =>
    match t.walk false maxLinks here [part] with
    | .ok next => makeDirectories t next rest
    | .error _ =>
      let next := here ++ [part]
      makeDirectories (t.put next .directory) next rest

/-- The tree with a directory at a path. -/
def addDirectory (t : FileTree) (here : Place) (path : List Char) : FileTree :=
  (t.makeDirectories (start here path) (splitAt '/' path)).1

/-- The tree with something at a path. -/
def add (t : FileTree) (here : Place) (path : List Char) (node : FileNode) : FileTree :=
  let parts := splitAt '/' path
  let (t, parent) := t.makeDirectories (start here path) parts.dropLast
  t.put (parent ++ [parts.getLastD []]) node

/-- The tree with a file at a path; behind a link, at its target. -/
def addFile (t : FileTree) (here : Place) (path : List Char) (content : List UInt8) : FileTree :=
  match t.follow true here path with
  | .ok place => t.put place (.file content)
  | .error _ => t.add here path (.file content)

/-- The tree with a link at a path. -/
def addLink (t : FileTree) (here : Place) (path target : List Char) : FileTree :=
  t.add here path (.link target)

end RuleDelta.FileTree

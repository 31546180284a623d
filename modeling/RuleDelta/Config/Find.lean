import RuleDelta.Config.Read
import RuleDelta.FileTree.Content

/-!
# Finding configurations

A configuration is in a file that is asked for, or else in the usual file of the repository, or
else it has the defaults.
-/

namespace RuleDelta

/-- A path of a file in a directory. -/
def joinPath (directory name : String) : String :=
  if directory.isEmpty || directory.toList.getLast? == some '/' then directory ++ name
  else directory ++ "/" ++ name

namespace Config

/-- The name of the usual file. -/
def usualFile : String := ".rulediff.yaml"

section

variable (format : SettingsFormat) (patterns : PatternReader) (t : FileTree) (here : Place)

/-- The configuration in a file. -/
def load (path : String) : Except ConfigError Config :=
  match t.readText here path.toList with
  | .ok text => ofYaml format patterns text
  | .error fault => .error (.unreadable path fault.message)

/-- The configuration for a repository. A file that is asked for has to exist. -/
def findFor (asked? : Option String) (root : String) : Except ConfigError Config :=
  match asked? with
  | some path => load format patterns t here path
  | none =>
    let path := joinPath root usualFile
    if t.isFile here path.toList then load format patterns t here path else .ok default

end

end Config

end RuleDelta

import RuleDelta.Pattern.Parse
import RuleDelta.Unicode.Quoted

/-!
# Filters of paths

Lists of patterns pick paths. A filter keeps the paths that a pattern to include matches and no
pattern to exclude. What a pattern matches is up to a reader of patterns.

* `PatternReader` is such a reader, and `patternReader` the one of this library;
* `PatternList.compile` reads the patterns of a setting;
* `PathFilter.allows` decides about a path.
-/

namespace RuleDelta

/-- A reader of patterns: the texts in which a pattern finds a match, if it is a pattern. -/
abbrev PatternReader := List Char → Except PatternFault (List Char → Bool)

/-- The reader of this library. -/
def patternReader : PatternReader := fun source =>
  (Pattern.parse source).map Pattern.isMatch

/-- A pattern that has been read. -/
structure CompiledPattern where
  /-- The text of the pattern. -/
  source : String
  /-- Whether the pattern matches a part of a text. -/
  isMatch : List Char → Bool

/-- A pattern that cannot be read. -/
structure BadPattern where
  /-- The setting that it stands in. -/
  field : String
  source : String
  fault : PatternFault

/-- A list of patterns. -/
abbrev PatternList := List CompiledPattern

namespace PatternList

/-- Reads the patterns of a setting, up to the first that cannot be read. -/
def compile (reader : PatternReader) (field : String) (sources : List String) :
    Except BadPattern PatternList :=
  sources.mapM fun source =>
    match reader source.toList with
    | .ok isMatch => .ok ⟨source, isMatch⟩
    | .error fault => .error ⟨field, source, fault⟩

/-- The first pattern that matches a part of the path. -/
def firstMatch? (patterns : PatternList) (path : String) : Option String :=
  (patterns.find? fun p => p.isMatch path.toList).map CompiledPattern.source

/-- The list as it is shown: the texts of the patterns in quotes. -/
def shown (patterns : PatternList) : String :=
  let texts := patterns.map fun p => String.ofList (Unicode.quoted p.source.toList)
  "[" ++ String.intercalate ", " texts ++ "]"

/-- Whether a pattern matches a part of the path. -/
def matchesAny (patterns : PatternList) (path : String) : Bool :=
  (patterns.firstMatch? path).isSome

end PatternList

/-- What decides which changed files count. -/
structure PathFilter where
  included : PatternList
  excluded : PatternList

namespace PathFilter

/-- The filter of two lists of patterns. -/
def compile (reader : PatternReader) (included excluded : List String) :
    Except BadPattern PathFilter := do
  return ⟨← PatternList.compile reader "include" included,
    ← PatternList.compile reader "exclude" excluded⟩

/-- Whether a path counts. Without patterns every path does, and with patterns to exclude only, none
does. -/
def allows (f : PathFilter) (path : String) : Bool :=
  (f.included.isEmpty && f.excluded.isEmpty) ||
    (!f.excluded.matchesAny path && f.included.matchesAny path)

end PathFilter

end RuleDelta

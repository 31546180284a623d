import RuleDelta.Unicode.Property
import RuleDelta.Unicode.Script

/-!
# Sets by name

Names of categories, scripts and properties are compared loosely: without regard to case, spaces,
underscores, hyphens and a leading `is`.
-/

namespace RuleDelta.Unicode

/-- The letters of a name that count in a comparison. -/
def looseLetters (name : List Char) : List Char :=
  (name.filter fun c => c.toNat < 0x80 && c != ' ' && c != '_' && c != '-').map Char.toLower

/-- A name as it is compared. A leading `is` does not count, except in `isc`. -/
def looseName (name : List Char) : List Char :=
  match name with
  | i :: s :: rest =>
    if i.toLower = 'i' && s.toLower = 's' then
      let letters := looseLetters rest
      if letters = ['c'] then ['i', 's', 'c'] else letters
    else looseLetters name
  | _ => looseLetters name

/-- The first name of the entry that goes by this name. -/
def findName? (table : List (List String)) (name : List Char) : Option String :=
  (table.find? fun names => names.any fun other => looseLetters other.toList == name).bind
    List.head?

/-- The set of a category. -/
def category? (name : List Char) : Option CharSet :=
  match String.ofList name with
  | "any" => some .all
  | "assigned" => some unassigned.complement
  | "ascii" => some (.ofRanges [⟨0, 0x7F⟩])
  | _ => (findName? categoryNames name).map charsOfCategory

/-- The set of a script. -/
def script? (name : List Char) : Option CharSet :=
  (findName? scriptNames name).map charsOfScript

/-- The set of a property. -/
def property? (name : List Char) : Option CharSet :=
  (findName? (properties.map Property.names) name).map charsOfProperty

/-- The names that stand for a category although there is a property of that name. -/
def categoryFirst : List String :=
  ["cf", "sc", "lc"]

/-- The set that goes by a name: of a property, a category or a script. -/
def setNamed? (name : List Char) : Option CharSet :=
  let name := looseName name
  let property := if categoryFirst.contains (String.ofList name) then none else property? name
  property <|> category? name <|> script? name

/-- The set of the characters whose property has a value. -/
def setWhere? (property value : List Char) : Option CharSet :=
  let value := looseName value
  match String.ofList (looseName property) with
  | "gc" | "generalcategory" => category? value
  | "sc" | "script" => script? value
  | "scx" | "scriptextensions" => (findName? scriptNames value).map charsUsedWithScript
  | _ => none

end RuleDelta.Unicode

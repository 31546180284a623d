import RuleDelta.Yaml.Error

/-!
# Named settings

A library for settings reads the settings with a name from a text and writes them into one.
Everything that is said about configurations is said for any such library.

* `Setting` is what a setting holds;
* `SettingsFormat` is such a library.
-/

namespace RuleDelta

/-- What the setting of a name has to hold. -/
inductive SettingKind
  | text
  /-- A whole number. -/
  | count
  /-- A list of texts. -/
  | texts
  deriving DecidableEq, Repr

/-- What a setting holds. -/
inductive Setting
  | text (s : String)
  | count (n : Nat)
  | texts (items : List String)
  deriving DecidableEq, Repr

namespace Setting

/-- The kind of a setting. -/
def kind : Setting → SettingKind
  | text _ => .text
  | count _ => .count
  | texts _ => .texts

/-- The text that a setting holds. -/
def text? : Setting → Option String
  | text s => some s
  | _ => none

/-- The number that a setting holds. -/
def count? : Setting → Option Nat
  | count n => some n
  | _ => none

/-- The texts that a setting holds. -/
def texts? : Setting → Option (List String)
  | texts items => some items
  | _ => none

end Setting

/-- A library that reads and writes settings with their names. A name that no kind is asked of is
skipped when it is read. -/
structure SettingsFormat where
  read : (String → Option SettingKind) → List Char → Except Yaml.Error (List (String × Setting))
  write : List (String × Setting) → Except Yaml.Error (List Char)

end RuleDelta

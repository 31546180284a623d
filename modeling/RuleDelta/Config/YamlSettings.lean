import RuleDelta.Config.Settings
import RuleDelta.Text.Numeral
import RuleDelta.Yaml.Reader
import RuleDelta.Yaml.WrittenScalar

/-!
# Settings in YAML

Settings are the entries of a YAML mapping. A text takes any scalar, and a list that is left out is
empty.

* `Yaml.readSettings` reads the settings of a text, each as one of its kind;
* `Yaml.settingsLines` is the written form of settings;
* `yamlSettings` is the library that does both.
-/

namespace RuleDelta

open Text

namespace Yaml

namespace Document

/-- A text: any scalar, as it is written. -/
def readText (d : Document) (node : Node) : Reading String := do
  match ← d.follow node with
  | .scalar _ _ text _ => return String.ofList text
  | .sequence mark _ _ | .mapping mark _ _ => throw (.atMark .unexpectedType mark)
  | .alias _ | .missing => throw d.fault

/-- Whether a node is left out: a plain scalar without characters. -/
def isLeftOut : Node → Bool
  | .scalar _ _ text style => text.isEmpty && style == .plain
  | _ => false

/-- A list of texts. One that is left out is empty. -/
def readTexts (d : Document) (node : Node) : Reading (List String) := do
  match ← d.follow node with
  | .sequence _ _ items => items.mapM d.readText
  | .mapping mark _ _ => throw (.atMark .unexpectedType mark)
  | .alias _ | .missing => throw d.fault
  | node@(.scalar mark _ _ _) =>
    if isLeftOut node then return [] else throw (.atMark .unexpectedType mark)

/-- Whether a scalar may be a whole number: a plain one, or one written by lines that is tagged
so. -/
def mayBeCount (tag : Option (List UInt8)) (style : ScalarStyle) : Bool :=
  style == .plain || (style == .literal && tag == some (coreTag "int"))

/-- A whole number of a machine word, without a minus sign. -/
def count? (text : List Char) : Option Nat :=
  if text.head? == some '-' then none
  else ((int? text).map Int.toNat).filter (· ≤ wordMax)

/-- A whole number. -/
def readCount (d : Document) (node : Node) : Reading Nat := do
  match ← d.follow node with
  | .scalar mark tag text style =>
    match if mayBeCount tag style then count? text else none with
    | some count => return count
    | none => throw (.atMark .unexpectedType mark)
  | .sequence mark _ _ | .mapping mark _ _ => throw (.atMark .unexpectedType mark)
  | .alias _ | .missing => throw d.fault

/-- A setting of a kind. -/
def readSetting (d : Document) (node : Node) : SettingKind → Reading Setting
  | .text => return .text (← d.readText node)
  | .count => return .count (← d.readCount node)
  | .texts => return .texts (← d.readTexts node)

/-- The settings with one more, unless no kind is asked of its name. A setting stands at most
once. -/
def addSetting (d : Document) (kinds : String → Option SettingKind) (mark : Mark)
    (found : List (String × Setting)) (name : String) (value : Node) :
    Reading (List (String × Setting)) :=
  match kinds name with
  | none => return found
  | some kind => do
    if (found.lookup name).isSome then throw (.atMark .duplicateKey mark)
    return found ++ [(name, ← d.readSetting value kind)]

/-- The settings of the entries of a mapping behind those that are found already. -/
def settingsFrom (d : Document) (kinds : String → Option SettingKind) (mark : Mark)
    (found : List (String × Setting)) (entries : List (Node × Node)) :
    Reading (List (String × Setting)) :=
  entries.foldlM (fun found (key, value) => do
    d.addSetting kinds mark found (← d.readText key) value) found

/-- The settings of a document. -/
def settings (kinds : String → Option SettingKind) (d : Document) :
    Except Error (List (String × Setting)) := do
  let found ← match d.root with
    | .mapping mark _ entries => (d.settingsFrom kinds mark [] entries).run' 0
    | .sequence mark _ _ => throw (.atMark .unexpectedType mark)
    | node@(.scalar mark _ _ _) =>
      if isLeftOut node then pure [] else throw (.atMark .unexpectedType mark)
    | .alias _ | .missing => throw d.fault
  match d.error? with
  | some e => throw e
  | none => return found

end Document

/-- The settings of a text. -/
def readSettings (kinds : String → Option SettingKind) (text : List Char) :
    Except Error (List (String × Setting)) :=
  single (Document.settings kinds) text

/-- The written form of a setting. -/
def settingLines (name : String) : Setting → List Char
  | .text s => (name ++ ": ").toList ++ scalarLines s.toList
  | .count n => s!"{name}: {n}\n".toList
  | .texts [] => (name ++ ": []\n").toList
  | .texts items =>
    (name ++ ":\n").toList ++ items.flatMap fun s => '-' :: ' ' :: scalarLines s.toList

/-- The written form of settings. -/
def settingsLines (settings : List (String × Setting)) : List Char :=
  if settings.isEmpty then "\x7b\x7d\n".toList
  else settings.flatMap fun s => settingLines s.1 s.2

end Yaml

/-- The settings of YAML mappings, as this library reads and writes them. -/
def yamlSettings : SettingsFormat where
  read := Yaml.readSettings
  write settings := .ok (Yaml.settingsLines settings)

end RuleDelta

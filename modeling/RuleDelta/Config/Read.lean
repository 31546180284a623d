import RuleDelta.Config.Basic
import RuleDelta.Config.Settings

/-!
# Reading and writing configurations

A configuration is read from the settings of a text, where settings that are left out have their
defaults, and written as a text with all of its settings.

* `Config.ofYaml` reads a configuration and refuses one that a run cannot go with;
* `Config.toYaml` writes one.
-/

namespace RuleDelta

open Text

namespace Config

/-- What the setting of a name has to hold. Other names have no meaning. -/
def kinds : String → Option SettingKind
  | "base_branch" => some .text
  | "max_commits" => some .count
  | "include" => some .texts
  | "exclude" => some .texts
  | "relaxed" => some .texts
  | _ => none

/-- The configuration of some settings, with defaults for the others. -/
def ofSettings (settings : List (String × Setting)) : Config where
  baseBranch := ((settings.lookup "base_branch").bind Setting.text?).getD default.baseBranch
  maxCommits := ((settings.lookup "max_commits").bind Setting.count?).getD default.maxCommits
  included := ((settings.lookup "include").bind Setting.texts?).getD default.included
  excluded := ((settings.lookup "exclude").bind Setting.texts?).getD default.excluded
  relaxed := ((settings.lookup "relaxed").bind Setting.texts?).getD default.relaxed

/-- The settings of a configuration, all of them. -/
def settings (c : Config) : List (String × Setting) :=
  [("base_branch", .text c.baseBranch), ("max_commits", .count c.maxCommits),
    ("include", .texts c.included), ("exclude", .texts c.excluded), ("relaxed", .texts c.relaxed)]

/-- The configuration in a text, whatever its values. A blank text leaves the defaults. -/
def read (format : SettingsFormat) (text : List Char) : Except ConfigError Config :=
  if allBlank text then .ok default
  else ((format.read kinds text).map ofSettings).mapError .malformed

/-- The configuration in a text. -/
def ofYaml (format : SettingsFormat) (patterns : PatternReader) (text : List Char) :
    Except ConfigError Config := do
  (← read format text).validated patterns

/-- The written form of a configuration. -/
def toYaml (format : SettingsFormat) (c : Config) : Except ConfigError (List Char) :=
  (format.write c.settings).mapError .unwritable

end Config

end RuleDelta

import RuleDelta.Config.YamlSettings
import RuleDelta.Json
import RuleDelta.PathFilter
import RuleDelta.RuleFile.Parse

/-!
# Libraries

What a run has from other libraries: readers of YAML, of settings and of patterns, and a writer of
JSON. The commands work with any of them.
-/

namespace RuleDelta

/-- What a run has from other libraries. -/
structure Libraries where
  /-- What reads rule files. -/
  yaml : RuleFile.YamlReader
  /-- What reads and writes configurations. -/
  settings : SettingsFormat
  patterns : PatternReader
  /-- What writes records of events. -/
  json : JsonWriter

/-- What this library has of its own. -/
def Libraries.own : Libraries where
  yaml := RuleFile.yamlReader
  settings := yamlSettings
  patterns := patternReader
  json := jsonWriter

end RuleDelta

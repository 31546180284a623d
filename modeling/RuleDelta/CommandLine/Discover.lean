import RuleDelta.CommandLine.Basic
import RuleDelta.CommandLine.Libraries
import RuleDelta.Config.Find
import RuleDelta.Discovery.TreeLink
import RuleDelta.Event.Record
import RuleDelta.Git.Process
import RuleDelta.Report.Json
import RuleDelta.Report.Text

/-!
# Commands at a workplace

What the commands do: the configuration that counts, the discovery with its report, and the records
of events, which a run writes whether it ends well or not.

* `effectiveConfig` is the configuration of a file under the flags of a command line;
* `prepare` finds the configuration of a discovery;
* `runDiscover` is a discovery;
* `showConfig` is the text of the configuration.
-/

namespace RuleDelta

open Text

/-- The configuration under the flags of a command line, if a run can go with it. -/
def effectiveConfig (patterns : PatternReader) (args : DiscoverArgs) (c : Config) :
    Except ConfigError Config :=
  (c.override args).validated patterns

/-- The directory to run in: the one that is asked for or else the current one. -/
def Workplace.directory (w : Workplace) (asked? : Option String) : String :=
  asked?.getD (String.ofList w.here.render)

/-- The lines of events at a time, without those that cannot be written. -/
def recordLines (write : JsonWriter) (time : String) (events : List Event) : List Char :=
  events.flatMap fun e =>
    match e.recordLine write time with
    | .ok line => line ++ ['\n']
    | .error _ => []

section

variable (libraries : Libraries) (w : Workplace)

/-- The top of the working tree and the configuration of a discovery. -/
def prepare (args : DiscoverArgs) : Except Error (String × Config) := do
  let root ← repositoryRoot w (w.directory args.repo)
  let found ← (Config.findFor libraries.settings libraries.patterns w.files w.here args.config
    root).mapError .config
  let config ← (effectiveConfig libraries.patterns args found).mapError .config
  return (root, config)

/-- The rules that the branch of a repository touches, and the events of the run. -/
def findRules (root : String) (c : Config) : Except Error (List Entry) × List Event :=
  match Finder.ofConfig libraries.patterns (gitIn w root) (RuleFile.parseWith libraries.yaml)
    (treeAliases w.files w.here root.toList) c with
  | .error e => (.error (.config e), [])
  | .ok finder =>
    let (result, trace) := finder.find.run.run .start
    (result, trace.events)

/-- The entries of a discovery, and the files behind it. -/
def runDiscover (time : String) (args : DiscoverArgs) : Except Error (List Entry) × FileTree :=
  match prepare libraries w args with
  | .error e => (.error e, w.files)
  | .ok (root, config) =>
    match args.events with
    | none => ((findRules libraries w root config).1, w.files)
    | some path =>
      match w.files.openAtEnd w.here path.toList with
      | .error fault => (.error (.config (.unopenedEvents path fault.message)), w.files)
      | .ok (place, files) =>
        let (result, events) := findRules libraries { w with files } root config
        (result, files.append place (Utf8.encode (recordLines libraries.json time events)))

/-- The text of the configuration that a discovery starts from. Outside of a repository only a file
that is asked for counts. -/
def showConfig (args : ConfigArgs) : Except Error (List Char) := do
  let directory := w.directory args.repo
  let root := (repositoryRoot w directory).toOption.getD directory
  let config ← (Config.findFor libraries.settings libraries.patterns w.files w.here args.config
    root).mapError .config
  (config.toYaml libraries.settings).mapError .config

end

/-- A report in a form. -/
def OutputFormat.report : OutputFormat → List Entry → String
  | text => Report.text
  | json => Report.json

end RuleDelta

import RuleDelta.CommandLine.Discover
import RuleDelta.CommandLine.Parse

/-!
# The program

Reads its command line, does what it asks for, and ends with a status. Reports go to the standard
output and errors to the standard error. This program starts no other one, so git is one that
cannot be found.
-/

namespace RuleDelta

/-- The exit status for a command line that is refused. -/
def Refusal.exitCode : Refusal → UInt32
  | displayHelp | displayVersion => 0
  | _ => 2

/-- The wording of a refusal. -/
def Refusal.message : Refusal → String
  | invalidValue => "a value is missing or not one of those that are possible"
  | unknownArgument => "unexpected argument"
  | invalidSubcommand => "unrecognized subcommand"
  | valueValidation => "a value cannot be read"
  | tooManyValues => "a flag has a value"
  | argumentConflict => "an option cannot be used multiple times"
  | missingSubcommand => "a subcommand is required but one was not provided"
  | displayHelp | displayHelpOnMissing => "usage: rulediff [--verbose] discover|config [OPTIONS]"
  | displayVersion => "rulediff 0.1.0"

/-- The tree with what the file system has at a path. -/
def loadPath (here : Place) (t : FileTree) (path : String) : IO FileTree := do
  try
    return t.addFile here path.toList (← IO.FS.readBinFile path).toList
  catch
    | .inappropriateType .. => return t.addDirectory here path.toList
    | _ => return t

/-- The current directory with what it has at some paths. -/
def loadWorkplace (paths : List String) : IO Workplace := do
  let directory := (← IO.currentDir).toString
  let here := ((Text.splitAt '/' directory.toList).filter fun part => !part.isEmpty)
  let files ← paths.foldlM (loadPath here) (FileTree.empty.addDirectory [] directory.toList)
  return {
    files, here
    program := fun _ _ => .error FileFault.missing.message }

/-- Ends with an error. -/
def endWith (e : Error) : IO UInt32 := do
  IO.eprintln s!"rulediff: {e.message}"
  return UInt32.ofNat e.exitCode

/-- Does a discovery. -/
def discoverCommand (args : DiscoverArgs) : IO UInt32 := do
  let workplace ← loadWorkplace args.repo.toList
  match (runDiscover .own workplace (toString (← IO.monoMsNow)) args).1 with
  | .error e => endWith e
  | .ok entries =>
    IO.print (args.format.report entries)
    return 0

/-- Shows the configuration. -/
def configCommand (args : ConfigArgs) : IO UInt32 := do
  let usual := joinPath (args.repo.getD "") Config.usualFile
  let workplace ← loadWorkplace (args.repo.toList ++ args.config.toList ++ [usual])
  match showConfig .own workplace args with
  | .error e => endWith e
  | .ok text =>
    IO.print (String.ofList text)
    return 0

end RuleDelta

open RuleDelta in
def main (args : List String) : IO UInt32 := do
  match parseArguments args with
  | .error refusal =>
    if refusal.exitCode = 0 then IO.println refusal.message else IO.eprintln refusal.message
    return refusal.exitCode
  | .ok ⟨_, .discover asked⟩ => discoverCommand asked
  | .ok ⟨_, .config asked⟩ => configCommand asked

import RuleDelta.CommandLine.Basic
import RuleDelta.Text.Numeral
import RuleDelta.Text.Split

/-!
# Reading command lines

Arguments are read from left to right. The value of an option is looked at when the next option or
the end of the line comes, so a later argument that nobody knows is complained about first.

* `ArgumentShape` is what an argument looks like;
* `ParsedOptions` are the options so far;
* `parseArguments` reads a command line without the name of the program.
-/

namespace RuleDelta

open Text

/-- The options. -/
inductive OptionName
  | verbose
  | help
  | version
  | baseBranch
  | maxCommits
  | included
  | excluded
  | relaxed
  | config
  | format
  | repo
  | events
  deriving DecidableEq, Repr

namespace OptionName

/-- The word of an option behind two hyphens. -/
def word : OptionName → String
  | verbose => "verbose"
  | help => "help"
  | version => "version"
  | baseBranch => "base-branch"
  | maxCommits => "max-commits"
  | included => "include"
  | excluded => "exclude"
  | relaxed => "relaxed"
  | config => "config"
  | format => "format"
  | repo => "repo"
  | events => "events"

/-- The letter of an option behind one hyphen. -/
def letter? : OptionName → Option Char
  | verbose => some 'v'
  | help => some 'h'
  | version => some 'V'
  | _ => none

/-- Whether an option goes without a value. -/
def isFlag : OptionName → Bool
  | verbose | help | version => true
  | _ => false

/-- Whether an option may come several times. -/
def isRepeatable : OptionName → Bool
  | included | excluded | relaxed => true
  | _ => false

/-- The options that all commands have. -/
def common : List OptionName :=
  [verbose, help, version]

/-- The options of a discovery. -/
def ofDiscover : List OptionName :=
  common ++ [baseBranch, maxCommits, included, excluded, relaxed, config, format, repo, events]

/-- The options of the display of the settings. -/
def ofConfig : List OptionName :=
  common ++ [config, repo]

end OptionName

/-- The form that goes by a name. -/
def OutputFormat.ofName? (name : String) : Option OutputFormat :=
  [OutputFormat.text, .json].find? fun format => format.name == name

/-- What an argument looks like. -/
inductive ArgumentShape
  /-- Two hyphens alone: no options follow. -/
  | stop
  /-- Two hyphens, a word and perhaps a value behind an equals sign. -/
  | long (word : List Char) (value? : Option (List Char))
  /-- One hyphen and letters. -/
  | short (letters : List Char)
  | value

/-- What an argument looks like. -/
def ArgumentShape.of (arg : String) : ArgumentShape :=
  match arg.toList with
  | ['-', '-'] => stop
  | '-' :: '-' :: rest =>
    match splitFirst? ['='] rest with
    | some (word, text) => long word (some text)
    | none => long rest none
  | ['-'] => value
  | '-' :: letters => short letters
  | _ => value

/-- The options so far. -/
structure ParsedOptions where
  /-- The options with their values, in their order. -/
  values : List (OptionName × String)
  /-- The last option, with its value if that is known, as long as nobody has looked at it. -/
  pending : Option (OptionName × Option String)

namespace ParsedOptions

/-- No options. -/
def none : ParsedOptions := ⟨[], .none⟩

/-- Refuses a value that an option cannot have. -/
def checkValue (name : OptionName) (value : String) : Except Refusal Unit :=
  match name with
  | .maxCommits => if (word? value.toList).isNone then .error .valueValidation else .ok ()
  | .format => if (OutputFormat.ofName? value).isNone then .error .invalidValue else .ok ()
  | .config | .repo | .events => if value.isEmpty then .error .invalidValue else .ok ()
  | _ => .ok ()

/-- The options with one more. -/
def add (o : ParsedOptions) (name : OptionName) (value : String) : Except Refusal ParsedOptions := do
  if !name.isRepeatable && (o.values.any fun (other, _) => other == name) then
    throw .argumentConflict
  checkValue name value
  return { o with values := o.values ++ [(name, value)] }

/-- The options when the last one has been looked at. -/
def settle (o : ParsedOptions) : Except Refusal ParsedOptions :=
  match o.pending with
  | .none => .ok o
  | some (_, .none) => .error .invalidValue
  | some (name, some value) => { o with pending := .none }.add name value

/-- The options behind a flag. -/
def flag (o : ParsedOptions) (name : OptionName) : Except Refusal ParsedOptions := do
  let o ← o.settle
  match name with
  | .help => throw .displayHelp
  | .version => throw .displayVersion
  | _ => o.add name ""

/-- The options behind an option with a word. -/
def long (known : List OptionName) (o : ParsedOptions) (word : List Char)
    (value? : Option (List Char)) : Except Refusal ParsedOptions := do
  match known.find? fun name => name.word.toList == word with
  | .none => throw .unknownArgument
  | some name =>
    match name.isFlag, value? with
    | true, some _ => throw .tooManyValues
    | true, .none => o.flag name
    | false, some value => (← o.settle).add name (String.ofList value)
    | false, .none => return { ← o.settle with pending := some (name, .none) }

/-- The options behind letters. -/
def short (known : List OptionName) (o : ParsedOptions) : List Char → Except Refusal ParsedOptions
  | [] => .ok o
  | c :: rest => do
    match known.find? fun name => name.letter? == some c with
    | .none => throw .unknownArgument
    | some name => short known (← o.flag name) rest

/-- The options of the rest of a command line. -/
def read (known : List OptionName) (o : ParsedOptions) :
    List String → Except Refusal ParsedOptions
  | [] => o.settle
  | arg :: rest => do
    match ArgumentShape.of arg with
    | .stop => if rest.isEmpty then o.settle else throw .unknownArgument
    | .long word value? => read known (← o.long known word value?) rest
    | .short letters => read known (← o.short known letters) rest
    | .value =>
      match o.pending with
      | some (name, .none) => read known { o with pending := some (name, some arg) } rest
      | _ => throw .unknownArgument

/-- The value of an option that comes at most once. -/
def value? (o : ParsedOptions) (name : OptionName) : Option String :=
  o.values.lookup name

/-- The values of an option. -/
def valuesOf (o : ParsedOptions) (name : OptionName) : List String :=
  (o.values.filter fun (other, _) => other == name).map Prod.snd

/-- Whether there is a flag. -/
def has (o : ParsedOptions) (name : OptionName) : Bool :=
  (o.value? name).isSome

/-- What a discovery is asked for. -/
def discoverArgs (o : ParsedOptions) : DiscoverArgs where
  baseBranch := o.value? .baseBranch
  maxCommits := (o.value? .maxCommits).bind fun value => word? value.toList
  included := o.valuesOf .included
  excluded := o.valuesOf .excluded
  relaxed := o.valuesOf .relaxed
  config := o.value? .config
  format := ((o.value? .format).bind OutputFormat.ofName?).getD .text
  repo := o.value? .repo
  events := o.value? .events

/-- What the display of the settings is asked for. -/
def configArgs (o : ParsedOptions) : ConfigArgs where
  config := o.value? .config
  repo := o.value? .repo

end ParsedOptions

/-- The commands. -/
inductive CommandName
  | discover
  | config
  | help
  deriving DecidableEq, Repr

/-- The command that goes by a name. -/
def CommandName.ofArgument? : String → Option CommandName
  | "discover" => some discover
  | "config" => some config
  | "help" => some help
  | _ => none

/-- The answer to a request for help on a command. -/
def helpOn : List String → Refusal
  | [] => .displayHelp
  | [arg] => if (CommandName.ofArgument? arg).isSome then .displayHelp else .invalidSubcommand
  | _ => .invalidSubcommand

/-- Reads the arguments behind the name of a command. -/
def parseCommand (verbose : Bool) (name : CommandName) (args : List String) :
    Except Refusal Invocation :=
  match name with
  | .help => .error (helpOn args)
  | .discover => do
    let o ← ParsedOptions.none.read OptionName.ofDiscover args
    return ⟨verbose || o.has .verbose, .discover o.discoverArgs⟩
  | .config => do
    let o ← ParsedOptions.none.read OptionName.ofConfig args
    return ⟨verbose || o.has .verbose, .config o.configArgs⟩

/-- The answer to a command line without a command. -/
def withoutCommand (o : ParsedOptions) : Refusal :=
  if o.values.isEmpty then .displayHelpOnMissing else .missingSubcommand

/-- Reads arguments up to the name of a command, and those behind it. -/
def parseArgumentsFrom (o : ParsedOptions) : List String → Except Refusal Invocation
  | [] => .error (withoutCommand o)
  | arg :: rest => do
    match CommandName.ofArgument? arg with
    | some name => parseCommand (o.has .verbose) name rest
    | none =>
      match ArgumentShape.of arg with
      | .stop =>
        match rest with
        | [] => throw (withoutCommand o)
        | next :: _ =>
          if (CommandName.ofArgument? next).isSome then throw .unknownArgument
          else throw .invalidSubcommand
      | .long word value? => parseArgumentsFrom (← o.long OptionName.common word value?) rest
      | .short letters => parseArgumentsFrom (← o.short OptionName.common letters) rest
      | .value => throw .invalidSubcommand

/-- Reads a command line without the name of the program. -/
def parseArguments (args : List String) : Except Refusal Invocation :=
  parseArgumentsFrom .none args

end RuleDelta

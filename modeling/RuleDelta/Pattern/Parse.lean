import RuleDelta.Pattern.Class

/-!
# Reading patterns

The text of a pattern is read from left to right. Settings that it changes hold up to the end of
the group that they stand in.

* `readRepetition` and `readGroup` read the constructs around single characters;
* `Pattern.parse` reads a pattern.
-/

namespace RuleDelta.Pattern

open Text Unicode

/-! ## Repetitions -/

/-- The largest number of repetitions that can be asked for. -/
def repetitionMax : Nat := 0xFFFFFFFF

/-- A number of repetitions, perhaps with blanks around it. -/
def repetitionCount? (s : List Char) : Option Nat :=
  (digits? 10 (trim s)).filter (· ≤ repetitionMax)

/-- The bounds that stand in the braces of a repetition. -/
def bounds? (s : List Char) : Option (Nat × Option Nat) :=
  match splitFirst? [','] s with
  | none => (repetitionCount? s).map fun n => (n, some n)
  | some (min, []) => (repetitionCount? min).map fun n => (n, none)
  | some (min, max) => do return (← repetitionCount? min, some (← repetitionCount? max))

/-- What is left behind a question mark that makes a repetition take as little as it can, which
makes no difference to what can be found. -/
def skipLazy : List Char → List Char
  | '?' :: cs => cs
  | s => s

/-- Reads a repetition: its bounds, and what follows. -/
def readRepetition (f : Flags) : List Char → Except PatternFault ((Nat × Option Nat) × List Char)
  | '?' :: cs => .ok ((0, some 1), skipLazy cs)
  | '*' :: cs => .ok ((0, none), skipLazy cs)
  | '+' :: cs => .ok ((1, none), skipLazy cs)
  | '\x7b' :: cs =>
    match braced? f cs with
    | none => .error .repetitionCount
    | some (inside, rest) =>
      match bounds? inside with
      | none => .error .repetitionCount
      | some (min, max?) =>
        if max?.any (· < min) then .error .repetitionBounds
        else .ok ((min, max?), skipLazy (f.skip rest))
  | _ => .error .repetitionCount

/-! ## Groups -/

/-- Whether a character may stand in the name of a group, first or later. -/
def isNameChar (first : Bool) (c : Char) : Bool :=
  c == '_' || (charsOfProperty "Alphabetic").has c ||
    (!first && (c == '.' || c == '[' || c == ']' || (charsOfCodes ["Nd", "Nl", "No"]).has c))

/-- Reads the name of a group and the bracket behind it. -/
def readName (s : List Char) : Except PatternFault (List Char × List Char) :=
  match splitFirst? ['>'] s with
  | some (c :: cs, rest) =>
    if isNameChar true c && cs.all (isNameChar false) then .ok (c :: cs, rest)
    else .error .groupName
  | _ => .error .groupName

/-- The settings with one of them changed. -/
def Flags.set? (f : Flags) (value : Bool) : Char → Option Flags
  | 'i' => some { f with ignoreCase := value }
  | 'm' => some { f with multiLine := value }
  | 's' => some { f with dotAll := value }
  | 'U' => some f
  | 'u' => some { f with unicode := value }
  | 'R' => some { f with crlf := value }
  | 'x' => some { f with extended := value }
  | _ => none

/-- Reads settings up to the colon or the parenthesis behind them. Each letter stands at most once;
those behind a hyphen are turned off, and a hyphen does not come last. `seen` are the letters so
far, last first. -/
def readFlags (f : Flags) (seen : List Char) :
    List Char → Except PatternFault (Flags × List Char × List Char)
  | [] => .error .groupFlag
  | c :: cs =>
    if c = ':' || c = ')' then
      if seen.head? == some '-' then .error .groupFlag else .ok (f, seen, c :: cs)
    else if seen.contains c then .error .groupFlag
    else if c = '-' then readFlags f (c :: seen) cs
    else match f.set? (!seen.contains '-') c with
      | some f => readFlags f (c :: seen) cs
      | none => .error .groupFlag

/-- What an opening parenthesis starts. -/
inductive Opening
  /-- A group, with its name and the settings in it. -/
  | group (name? : Option (List Char)) (flags : Flags)
  /-- Other settings for the rest of the group around. -/
  | settings (flags : Flags)

/-- What follows one of the words at the start of a text. -/
def dropWordOf? (s : List Char) : List (List Char) → Option (List Char)
  | [] => none
  | word :: words => dropWord? word s <|> dropWordOf? s words

/-- Reads what follows an opening parenthesis. -/
def readGroup (f : Flags) (s : List Char) : Except PatternFault (Opening × List Char) := do
  let s := f.skip s
  if ["?=", "?!", "?<=", "?<!"].any fun word => startsWith s word.toList then throw .lookAround
  match dropWordOf? s [['?', 'P', '<'], ['?', '<']], dropWord? ['?'] s with
  | some rest, _ => do
    let (name, rest) ← readName rest
    return (.group (some name) f, rest)
  | none, some rest => do
    let (flags, seen, rest) ← readFlags f [] rest
    match rest with
    | ')' :: rest => if seen.isEmpty then throw .nothingToRepeat else return (.settings flags, rest)
    | _ => return (.group none flags, rest.drop 1)
  | none, none => return (.group none f, s)

/-! ## Patterns -/

/-- The parts in a row as a pattern. -/
def ofParts : List Pattern → Pattern
  | [p] => p
  | parts => seq parts

/-- The branches as a pattern. -/
def ofBranches : List Pattern → Pattern
  | [p] => p
  | branches => alt branches

/-- What has been read of a group, last first. -/
structure OpenGroup where
  branches : List Pattern
  /-- The parts of the current branch; `none` stands where settings change. -/
  parts : List (Option Pattern)
  /-- The settings around the group. -/
  outside : Flags

namespace OpenGroup

/-- A group of which nothing has been read. -/
def start (outside : Flags) : OpenGroup := ⟨[], [], outside⟩

/-- The group with one part more. -/
def add (g : OpenGroup) (part : Option Pattern) : OpenGroup :=
  { g with parts := part :: g.parts }

/-- The current branch. -/
def branch (g : OpenGroup) : Pattern :=
  ofParts (g.parts.reverse.filterMap id)

/-- The group with a new branch. -/
def nextBranch (g : OpenGroup) : OpenGroup :=
  { g with branches := g.branch :: g.branches, parts := [] }

/-- The pattern of the whole group. -/
def pattern (g : OpenGroup) : Pattern :=
  ofBranches (g.nextBranch.branches.reverse)

end OpenGroup

/-- The state of the reading of a pattern. -/
structure Reading where
  flags : Flags
  current : OpenGroup
  /-- The groups around the current one, the closest first. -/
  outer : List OpenGroup
  /-- The names of groups so far. -/
  names : List (List Char)

namespace Reading

/-- The state behind a part. -/
def add (r : Reading) (part : Pattern) : Reading :=
  { r with current := r.current.add (some part) }

/-- The state behind an opening parenthesis. -/
def «open» (r : Reading) : Opening → Except PatternFault Reading
  | .settings flags => .ok { r with flags, current := r.current.add none }
  | .group name? flags =>
    if name?.any r.names.contains then .error .repeatedGroupName
    else .ok {
      flags
      current := .start r.flags
      outer := r.current :: r.outer
      names := name?.toList ++ r.names }

/-- The state behind a closing parenthesis. -/
def close (r : Reading) : Except PatternFault Reading :=
  match r.outer with
  | [] => .error .unopenedGroup
  | g :: gs => .ok { r with
      flags := r.current.outside
      current := g.add (some (.group r.current.pattern))
      outer := gs }

/-- The state behind a repetition of the last part. -/
def repeatLast (r : Reading) (min : Nat) (max? : Option Nat) : Except PatternFault Reading :=
  match r.current.parts with
  | some part :: parts =>
    .ok { r with current := { r.current with parts := some (.repeated part min max?) :: parts } }
  | _ => .error .nothingToRepeat

end Reading

/-- The pattern of one character. -/
def ofChar (f : Flags) (c : Char) : Pattern :=
  if !f.ignoreCase then .chars (.single c)
  else if f.unicode then .chars (CharSet.single c).fold
  else .chars (.ofCodes [c.toNat, c.toUpper.toNat, c.toLower.toNat])

/-- The characters that the dot stands for. -/
def dotSet (f : Flags) : CharSet :=
  if f.dotAll then .all
  else if f.crlf then (CharSet.ofCodes [0x0A, 0x0D]).complement
  else (CharSet.single '\n').complement

/-- Reads a single character, or what stands for one, or a condition. -/
def readSingle (f : Flags) (c : Char) (cs : List Char) :
    Except PatternFault (Pattern × List Char) :=
  if c = '\\' then
    (readEscape f cs).map fun (atom, rest) =>
      match atom with
      | .char c => (ofChar f c, rest)
      | .set s => (.chars s, rest)
      | .look condition => (.look condition, rest)
  else if c = '[' then (readClass f cs).map fun (set, rest) => (.chars set, rest)
  else if c = '.' then
    if f.unicode then .ok (.chars (dotSet f), cs) else .error .partOfCharacter
  else if c = '^' then .ok (.look (if f.multiLine then .lineStart f.crlf else .textStart), cs)
  else if c = '$' then .ok (.look (if f.multiLine then .lineEnd f.crlf else .textEnd), cs)
  else .ok (ofChar f c, cs)

/-- Reads one construct. -/
def readNext (r : Reading) (c : Char) (cs : List Char) :
    Except PatternFault (Reading × List Char) := do
  if c = '(' then
    let (opening, rest) ← readGroup r.flags cs
    return (← r.open opening, rest)
  else if c = ')' then return (← r.close, cs)
  else if c = '|' then return ({ r with current := r.current.nextBranch }, cs)
  else if ['?', '*', '+', '\x7b'].contains c then
    let ((min, max?), rest) ← readRepetition r.flags (c :: cs)
    return (← r.repeatLast min max?, rest)
  else
    let (part, rest) ← readSingle r.flags c cs
    return (r.add part, rest)

/-- Reads what is left of a pattern. Each construct takes a character or more. -/
def readFrom (fuel : Nat) (r : Reading) (s : List Char) : Except PatternFault Pattern := do
  match fuel, r.flags.skip s with
  | _, [] => if r.outer.isEmpty then return r.current.pattern else throw .unclosedGroup
  | 0, _ => throw .unclosedGroup
  | fuel + 1, c :: cs =>
    let (r, rest) ← readNext r c cs
    readFrom fuel r rest

/-- How deep a pattern may be nested. -/
def depthMax : Nat := 250

/-- The room in bytes that the automaton for a pattern may take. -/
def sizeMax : Nat := 10 * 1024 * 1024

/-- Reads a pattern. -/
def parse (s : List Char) : Except PatternFault Pattern := do
  let p ← readFrom s.length ⟨.initial, .start .initial, [], []⟩ s
  if depthMax < p.depth then throw .tooDeep
  if sizeMax < p.size then throw .tooLarge
  return p

end RuleDelta.Pattern

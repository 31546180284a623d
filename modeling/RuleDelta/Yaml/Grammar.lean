import RuleDelta.Yaml.Event

/-!
# From tokens to events

The grammar of tokens, read from left to right with a stack of goals: what has to come next, and
what behind that. One step takes the topmost goal, looks at no more than the next few tokens, and
puts the goals in its place that it amounts to.

* `Goal` is what may be expected;
* `Grammar.step` takes one step;
* `parse` reads all events of a text from its tokens.
-/

namespace RuleDelta.Yaml

/-- What is expected next. -/
inductive Goal
  /-- Documents up to the end of the text; the first needs no sign in front of it. -/
  | documents (implicit : Bool)
  /-- The content of a document behind its sign, which may be missing. -/
  | content
  /-- The end of a document. -/
  | documentEnd
  /-- A node; in a block, and where a sequence need not be indented. -/
  | node (block indentless : Bool)
  /-- The further entries of a block sequence. -/
  | blockEntries
  /-- The further entries of a sequence that is not indented. -/
  | indentlessEntries
  /-- The next key of a block mapping, or its end. -/
  | blockKey
  /-- The value behind a key of a block mapping. -/
  | blockValue
  /-- The next entry of a flow sequence, or its end. -/
  | flowEntries (first : Bool)
  /-- The key of a mapping that is one entry of a flow sequence. -/
  | pairKey
  /-- The value behind that key. -/
  | pairValue
  /-- The end of that mapping. -/
  | pairEnd
  /-- The next key of a flow mapping, or its end. -/
  | flowKey (first : Bool)
  /-- The value behind a key of a flow mapping. -/
  | flowValue
  /-- The missing value of an entry that is a single node. -/
  | flowNoValue
  deriving DecidableEq, Repr

/-- The lead that a handle of a tag stands for. -/
structure Handle where
  name : List Char
  lead : List UInt8
  deriving DecidableEq, Repr

/-- The handles that every document knows. -/
def defaultHandles : List Handle :=
  [⟨['!'], "!".toUTF8.toList⟩, ⟨['!', '!'], "tag:yaml.org,2002:".toUTF8.toList⟩]

/-- The state of reading events. -/
structure Grammar where
  /-- What is expected, next first. -/
  goals : List Goal
  /-- The tokens that are left. -/
  tokens : List Token
  /-- The handles of the current document. -/
  handles : List Handle

namespace Grammar

/-- The state in front of the tokens of a text. -/
def ofTokens (tokens : List Token) : Grammar where
  goals := [.documents true]
  tokens := tokens.drop 1
  handles := []

/-- The next token, or the fault that keeps it from being read. -/
def peek (stop : Error) (g : Grammar) : Except Error Token :=
  match g.tokens with
  | t :: _ => .ok t
  | [] => .error stop

/-- The state behind the next token. -/
def drop (g : Grammar) : Grammar :=
  { g with tokens := g.tokens.tail }

/-- The state with further goals in front. -/
def expect (g : Grammar) (goals : List Goal) : Grammar :=
  { g with goals := goals ++ g.goals }

/-- What a step yields: an event, unless it only replaces a goal, and the state behind it. -/
abbrev Step := Option Located × Grammar

/-- A step with an event. -/
def emit (g : Grammar) (event : Event) (mark : Mark) : Step :=
  (some ⟨event, mark⟩, g)

/-- A step with a scalar that is left out. -/
def emitEmpty (g : Grammar) (mark : Mark) : Step :=
  g.emit (.empty .none) mark

/-- A step without an event. -/
def silent (g : Grammar) : Step :=
  (none, g)

/-! ## Nodes -/

/-- The tag of a handle and a tail. A tag without a handle is whole. -/
def resolveTag (g : Grammar) (mark : Mark) (handle : List Char) (tail : List UInt8) :
    Except Error (List UInt8) :=
  if handle.isEmpty then .ok tail
  else
    match g.handles.find? fun h => h.name == handle with
    | some h => .ok (h.lead ++ tail)
    | none => .error (.atMark .undefinedTagHandle mark)

/-- The properties in front of a node, with the place of the first and the state behind them. -/
def readProperties (stop : Error) (g : Grammar) :
    Except Error (Properties × Mark × Grammar) := do
  let t ← g.peek stop
  match t.symbol with
  | .anchor name => do
    let g := g.drop
    let u ← g.peek stop
    match u.symbol with
    | .tag handle tail => do
      let g := g.drop
      let _ ← g.peek stop
      return (⟨some name, some (← g.resolveTag u.mark handle tail)⟩, t.mark, g)
    | _ => return (⟨some name, none⟩, t.mark, g)
  | .tag handle tail => do
    let g := g.drop
    let u ← g.peek stop
    match u.symbol with
    | .anchor name => do
      let g := g.drop
      let _ ← g.peek stop
      return (⟨some name, some (← g.resolveTag t.mark handle tail)⟩, t.mark, g)
    | _ => return (⟨none, some (← g.resolveTag t.mark handle tail)⟩, t.mark, g)
  | _ => return (.none, t.mark, g)

/-- Reads a node or the start of one. -/
def readNode (stop : Error) (g : Grammar) (block indentless : Bool) : Except Error Step := do
  let t ← g.peek stop
  match t.symbol with
  | .alias name => return g.drop.emit (.alias name) t.mark
  | _ => do
    let (p, mark, g) ← g.readProperties stop
    let t ← g.peek stop
    match t.symbol with
    | .blockEntry =>
      if indentless then return (g.expect [.indentlessEntries]).emit (.sequenceStart p) mark
      else if p = .none then .error (.atMark .missingContent t.mark)
      else return g.emit (.empty p) mark
    | .scalar text style => return g.drop.emit (.scalar p text style) mark
    | .flowSequenceStart =>
      return (g.drop.expect [.flowEntries true]).emit (.sequenceStart p) mark
    | .flowMappingStart => return (g.drop.expect [.flowKey true]).emit (.mappingStart p) mark
    | .blockSequenceStart =>
      if block then return (g.drop.expect [.blockEntries]).emit (.sequenceStart p) mark
      else if p = .none then .error (.atMark .missingContent t.mark)
      else return g.emit (.empty p) mark
    | .blockMappingStart =>
      if block then return (g.drop.expect [.blockKey]).emit (.mappingStart p) mark
      else if p = .none then .error (.atMark .missingContent t.mark)
      else return g.emit (.empty p) mark
    | _ =>
      if p = .none then .error (.atMark .missingContent t.mark)
      else return g.emit (.empty p) mark

/-- Goes on with a node if none of `ends` comes next, and with a scalar that is left out
otherwise. -/
def nodeUnless (stop : Error) (g : Grammar) (ends : List Symbol) (block indentless : Bool)
    (next : Goal) : Except Error Step := do
  let t ← g.peek stop
  if ends.contains t.symbol then return (g.expect [next]).emitEmpty t.mark
  else return (g.expect [.node block indentless, next]).silent

/-! ## Collections -/

/-- Reads an entry of a block sequence or its end. -/
def readBlockEntries (stop : Error) (g : Grammar) : Except Error Step := do
  let t ← g.peek stop
  match t.symbol with
  | .blockEntry => g.drop.nodeUnless stop [.blockEntry, .blockEnd] true false .blockEntries
  | .blockEnd => return g.drop.emit .sequenceEnd t.mark
  | _ => .error (.atMark .missingDash t.mark)

/-- Reads an entry of a sequence that is not indented, or its end. -/
def readIndentlessEntries (stop : Error) (g : Grammar) : Except Error Step := do
  let t ← g.peek stop
  match t.symbol with
  | .blockEntry =>
    g.drop.nodeUnless stop [.blockEntry, .key, .value, .blockEnd] true false .indentlessEntries
  | _ => return g.emit .sequenceEnd t.mark

/-- Reads a key of a block mapping or its end. -/
def readBlockKey (stop : Error) (g : Grammar) : Except Error Step := do
  let t ← g.peek stop
  match t.symbol with
  | .key => g.drop.nodeUnless stop [.key, .value, .blockEnd] true true .blockValue
  | .blockEnd => return g.drop.emit .mappingEnd t.mark
  | _ => .error (.atMark .missingKey t.mark)

/-- Reads a value of a block mapping. -/
def readBlockValue (stop : Error) (g : Grammar) : Except Error Step := do
  let t ← g.peek stop
  match t.symbol with
  | .value => g.drop.nodeUnless stop [.key, .value, .blockEnd] true true .blockKey
  | _ => return (g.expect [.blockKey]).emitEmpty t.mark

/-- The state behind the sign between two entries of a flow collection. In front of the first
entry, and of the end, there is none. -/
def readSeparator (stop : Error) (g : Grammar) (first : Bool) (close : Symbol)
    (problem : Problem) : Except Error Grammar := do
  let t ← g.peek stop
  if first || t.symbol = close then return g
  else if t.symbol = .flowEntry then return g.drop
  else .error (.atMark problem t.mark)

/-- Reads an entry of a flow sequence or its end. -/
def readFlowEntries (stop : Error) (g : Grammar) (first : Bool) : Except Error Step := do
  let g ← g.readSeparator stop first .flowSequenceEnd .missingBracket
  let t ← g.peek stop
  match t.symbol with
  | .flowSequenceEnd => return g.drop.emit .sequenceEnd t.mark
  | .key => return (g.drop.expect [.pairKey, .flowEntries false]).emit (.mappingStart .none) t.mark
  | _ => return (g.expect [.node false false, .flowEntries false]).silent

/-- Reads the key of a mapping that is one entry of a flow sequence. A token in the place of a
missing key is passed over. -/
def readPairKey (stop : Error) (g : Grammar) : Except Error Step := do
  let t ← g.peek stop
  match t.symbol with
  | .value | .flowEntry | .flowSequenceEnd =>
    return (g.drop.expect [.pairValue]).emitEmpty t.mark
  | _ => return (g.expect [.node false false, .pairValue]).silent

/-- Reads the value behind that key. -/
def readPairValue (stop : Error) (g : Grammar) : Except Error Step := do
  let t ← g.peek stop
  match t.symbol with
  | .value => g.drop.nodeUnless stop [.flowEntry, .flowSequenceEnd] false false .pairEnd
  | _ => return (g.expect [.pairEnd]).emitEmpty t.mark

/-- Reads a key of a flow mapping or its end. -/
def readFlowKey (stop : Error) (g : Grammar) (first : Bool) : Except Error Step := do
  let g ← g.readSeparator stop first .flowMappingEnd .missingBrace
  let t ← g.peek stop
  match t.symbol with
  | .flowMappingEnd => return g.drop.emit .mappingEnd t.mark
  | .key => g.drop.nodeUnless stop [.value, .flowEntry, .flowMappingEnd] false false .flowValue
  | _ => return (g.expect [.node false false, .flowNoValue]).silent

/-- Reads a value of a flow mapping. -/
def readFlowValue (stop : Error) (g : Grammar) : Except Error Step := do
  let t ← g.peek stop
  match t.symbol with
  | .value => g.drop.nodeUnless stop [.flowEntry, .flowMappingEnd] false false (.flowKey false)
  | _ => return (g.expect [.flowKey false]).emitEmpty t.mark

/-! ## Documents -/

/-- What the directives in front of a document say. -/
structure Directives where
  versioned : Bool
  handles : List Handle

/-- Reads one directive. -/
def readDirective (d : Directives) (t : Token) : Except Error Directives :=
  match t.symbol with
  | .version major minor =>
    if d.versioned then .error (.atMark .duplicateVersion t.mark)
    else if major = 1 ∧ (minor = 1 ∨ minor = 2) then .ok { d with versioned := true }
    else .error (.atMark .unsupportedVersion t.mark)
  | .tagDirective handle lead =>
    if d.handles.any fun h => h.name == handle then
      .error (.atMark .duplicateTagHandle t.mark)
    else .ok { d with handles := d.handles ++ [⟨handle, lead⟩] }
  | _ => .ok d

/-- Whether a token is a directive. -/
def isDirective (t : Token) : Bool :=
  match t.symbol with
  | .version _ _ | .tagDirective _ _ => true
  | _ => false

/-- The state behind the directives in front of a document. -/
def readDirectives (g : Grammar) : Except Error Grammar := do
  let d ← (g.tokens.takeWhile isDirective).foldlM readDirective ⟨false, []⟩
  let further := defaultHandles.filter fun h => !d.handles.any fun k => k.name == h.name
  return { g with
    tokens := g.tokens.dropWhile isDirective
    handles := d.handles ++ further }

/-- Reads the start of a document or the end of the text. -/
def readDocuments (stop : Error) (g : Grammar) (implicit : Bool) : Except Error Step := do
  let g :=
    if implicit then g
    else { g with tokens := g.tokens.dropWhile fun t => t.symbol == .documentEnd }
  let t ← g.peek stop
  if t.symbol = .streamEnd then return g.drop.silent
  else if implicit && !isDirective t && t.symbol ≠ .documentStart then
    let g ← g.readDirectives
    return (g.expect [.node true false, .documentEnd, .documents false]).emit .documentStart t.mark
  else
    let g ← g.readDirectives
    let u ← g.peek stop
    if u.symbol = .documentStart then
      return (g.drop.expect [.content, .documentEnd, .documents false]).emit .documentStart t.mark
    else .error (.atMark .missingDocumentStart u.mark)

/-- Reads the content of a document behind its sign. -/
def readContent (stop : Error) (g : Grammar) : Except Error Step := do
  let t ← g.peek stop
  let ends := [Symbol.documentStart, .documentEnd, .streamEnd]
  if isDirective t || ends.contains t.symbol then return g.emitEmpty t.mark
  else return (g.expect [.node true false]).silent

/-- Reads the end of a document. -/
def readDocumentEnd (stop : Error) (g : Grammar) : Except Error Step := do
  let t ← g.peek stop
  let g := { g with handles := [] }
  return (if t.symbol = .documentEnd then g.drop else g).emit .documentEnd t.mark

/-! ## All events -/

/-- Takes the step that a goal asks for. -/
def step (stop : Error) (g : Grammar) : Goal → Except Error Step
  | .documents implicit => g.readDocuments stop implicit
  | .content => g.readContent stop
  | .documentEnd => g.readDocumentEnd stop
  | .node block indentless => g.readNode stop block indentless
  | .blockEntries => g.readBlockEntries stop
  | .indentlessEntries => g.readIndentlessEntries stop
  | .blockKey => g.readBlockKey stop
  | .blockValue => g.readBlockValue stop
  | .flowEntries first => g.readFlowEntries stop first
  | .pairKey => g.readPairKey stop
  | .pairValue => g.readPairValue stop
  | .pairEnd => do return g.emit .mappingEnd (← g.peek stop).mark
  | .flowKey first => g.readFlowKey stop first
  | .flowValue => g.readFlowValue stop
  | .flowNoValue => do return (g.expect [.flowKey false]).emitEmpty (← g.peek stop).mark

/-- All events from a state on, up to the end or the first fault. -/
def run (stop : Error) : Nat → Grammar → List Located × Option Error
  | 0, _ => ([], some stop)
  | fuel + 1, g =>
    match g.goals with
    | [] => ([], none)
    | goal :: goals =>
      match { g with goals }.step stop goal with
      | .error e => ([], some e)
      | .ok (event?, g) =>
        let (events, error?) := run stop fuel g
        (event?.toList ++ events, error?)

end Grammar

/-- The events of a text, given its tokens and the fault behind the last of them. A token is looked
at by a bounded number of goals, which bounds the number of steps. -/
def parse (tokens : List Token × Option Error) : List Located × Option Error :=
  let stop := tokens.2.getD ⟨.missingValue, none⟩
  Grammar.run stop (8 * tokens.1.length + 8) (.ofTokens tokens.1)

end RuleDelta.Yaml

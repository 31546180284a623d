import RuleDelta.Pattern.Escape

/-!
# Classes of patterns

A class is a set of characters in brackets: characters, ranges, other classes, and operations on
sets of these.

* `asciiClass?` are the named classes;
* `readClass` reads a class.
-/

namespace RuleDelta.Pattern

open Text Unicode

/-- The set of a named class. -/
def asciiClass? (name : List Char) : Option CharSet :=
  let ranges := match String.ofList name with
    | "alnum" => "30-39 41-5A 61-7A"
    | "alpha" => "41-5A 61-7A"
    | "ascii" => "0-7F"
    | "blank" => "9 20"
    | "cntrl" => "0-1F 7F"
    | "digit" => "30-39"
    | "graph" => "21-7E"
    | "lower" => "61-7A"
    | "print" => "20-7E"
    | "punct" => "21-2F 3A-40 5B-60 7B-7E"
    | "space" => "9-D 20"
    | "upper" => "41-5A"
    | "word" => "30-39 41-5A 5F 61-7A"
    | "xdigit" => "30-39 41-46 61-66"
    | _ => ""
  if ranges.isEmpty then none else some (.ofRanges (readRanges [ranges]))

/-- The named class at the start of a text, such as `[:alpha:]` or, for its complement,
`[:^alpha:]`: whether it is a complement, its set, and what follows. -/
def namedClass? (s : List Char) : Option (Bool × CharSet × List Char) := do
  let rest ← dropWord? ['[', ':'] s
  let (negated, rest) := match rest with
    | '^' :: cs => (true, cs)
    | _ => (false, rest)
  let (name, rest) ← splitFirst? [':', ']'] rest
  return (negated, ← asciiClass? name, rest)

/-- An operation on two sets. -/
inductive SetOperation
  | inter
  | difference
  | symmetricDifference

/-- The result of an operation. -/
def SetOperation.apply (s t : CharSet) : SetOperation → CharSet
  | inter => s.inter t
  | difference => s.difference t
  | symmetricDifference => s.symmetricDifference t

/-- A class whose end is still to come. -/
structure OpenClass where
  negated : Bool
  /-- The operation in front of the current operand, with the result of all before it. -/
  pending : Option (CharSet × SetOperation)
  /-- The current operand so far. -/
  operand : CharSet

namespace OpenClass

/-- The set so far. Operations apply from left to right. -/
def set (f : Flags) (c : OpenClass) : CharSet :=
  match c.pending with
  | none => c.operand
  | some (left, operation) =>
    if f.ignoreCase then operation.apply left.fold c.operand.fold
    else operation.apply left c.operand

/-- The class with more characters. -/
def add (c : OpenClass) (more : CharSet) : OpenClass :=
  { c with operand := c.operand.union more }

/-- The class behind an operator. -/
def operator (f : Flags) (operation : SetOperation) (c : OpenClass) : OpenClass :=
  { c with pending := some (c.set f, operation), operand := .empty }

end OpenClass

/-- The hyphens at the start of a class, which stand for themselves, and what follows. -/
def leadingHyphens (f : Flags) (fuel : Nat) (operand : CharSet) (s : List Char) :
    CharSet × List Char :=
  match fuel, s with
  | fuel + 1, '-' :: cs => leadingHyphens f fuel (operand.union (.single '-')) (f.skip cs)
  | _, _ => (operand, s)

/-- Reads the start of a class behind its bracket. A closing bracket that comes first stands for
itself. -/
def openClass (f : Flags) (s : List Char) : Except PatternFault (OpenClass × List Char) := do
  let s := f.skip s
  let (negated, s) := match s with
    | '^' :: cs => (true, f.skip cs)
    | _ => (false, s)
  let (operand, s) := leadingHyphens f s.length .empty s
  let (operand, s) := match operand.ranges, s with
    | [], ']' :: cs => (CharSet.single ']', f.skip cs)
    | _, _ => (operand, s)
  if s.isEmpty then throw .unclosedClass
  return (⟨negated, none, operand⟩, s)

/-- Reads one element of a class. -/
def readElement (f : Flags) : List Char → Except PatternFault (Atom × List Char)
  | [] => .error .unclosedClass
  | '\\' :: cs => readEscape f cs
  | c :: cs => .ok (.char c, cs)

/-- The character of an element. -/
def Atom.asChar (f : Flags) : Atom → Except PatternFault Char
  | .char c => if f.unicode || c.toNat < 0x80 then .ok c else .error .unicodeOff
  | _ => .error .classRange

/-- The set of an element. -/
def Atom.charSet (f : Flags) : Atom → Except PatternFault CharSet
  | .set s => .ok s
  | .look _ => .error .escapeInClass
  | .char c => if f.unicode || c.toNat < 0x80 then .ok (.single c) else .error .unicodeOff

/-- The first character that counts in an outlook past the current one. The comment that a hash
sign starts does not end here. -/
def outlook? (f : Flags) (s : List Char) : Option Char :=
  if f.extended then
    let ahead := s.dropWhile isBlank
    match ahead with
    | '#' :: cs => (cs.dropWhile isBlank).head? <|> s.head?
    | [] => s.head?
    | c :: _ => some c
  else s.head?

/-- Reads an element of a class or a range of two. -/
def readItem (f : Flags) (s : List Char) : Except PatternFault (CharSet × List Char) := do
  let (first, rest) ← readElement f s
  let rest := f.skip rest
  match rest with
  | [] => throw .unclosedClass
  | '-' :: cs =>
    if outlook? f cs == some ']' || outlook? f cs == some '-' then
      return (← first.charSet f, rest)
    else do
      let (last, rest) ← readElement f (f.skip cs)
      let first ← first.asChar f
      let last ← last.asChar f
      if last < first then throw .classRange
      return (.between first last, rest)
  | _ => return (← first.charSet f, rest)

/-- Reads a class behind its start. The open classes around it are `outer`. -/
def readClassFrom (f : Flags) (fuel : Nat) (outer : List OpenClass) (c : OpenClass)
    (s : List Char) : Except PatternFault (CharSet × List Char) := do
  match fuel, f.skip s with
  | 0, _ | _, [] => throw .unclosedClass
  | fuel + 1, ']' :: rest =>
    let set ← finishSet f c.negated (c.set f)
    match outer with
    | [] => return (set, rest)
    | d :: ds => readClassFrom f fuel ds (d.add set) rest
  | fuel + 1, s@('[' :: cs) =>
    match namedClass? s with
    | some (negated, set, rest) =>
      readClassFrom f fuel outer (c.add (← finishSet f negated set)) rest
    | none => do
      let (inner, rest) ← openClass f cs
      readClassFrom f fuel (c :: outer) inner rest
  | fuel + 1, '&' :: '&' :: rest => readClassFrom f fuel outer (c.operator f .inter) rest
  | fuel + 1, '-' :: '-' :: rest => readClassFrom f fuel outer (c.operator f .difference) rest
  | fuel + 1, '~' :: '~' :: rest =>
    readClassFrom f fuel outer (c.operator f .symmetricDifference) rest
  | fuel + 1, s => do
    let (set, rest) ← readItem f s
    readClassFrom f fuel outer (c.add set) rest

/-- Reads a class behind its opening bracket. -/
def readClass (f : Flags) (s : List Char) : Except PatternFault (CharSet × List Char) := do
  let (c, rest) ← openClass f s
  readClassFrom f (rest.length + 1) [] c rest

end RuleDelta.Pattern

import RuleDelta.Yaml.PlainScalar
import RuleDelta.Text.Numeral

/-!
# Block scalars

A block scalar has a header, which may fix its indentation and says what becomes of the line
breaks at its end, and indented lines. Without a fixed indentation the first line that is not
empty gives it.

* `readHeader` reads the header;
* `blockFrom` reads the lines;
* `readBlock` reads a whole block scalar.
-/

namespace RuleDelta.Yaml

/-- What becomes of the line breaks at the end of a block scalar. -/
inductive Chomping
  /-- All are dropped. -/
  | strip
  /-- One is kept. -/
  | clip
  /-- All are kept. -/
  | keep
  deriving DecidableEq, Repr

/-- The header of a block scalar. -/
structure BlockHeader where
  chomping : Chomping
  /-- The indentation relative to the surrounding block, if it is given. -/
  increment? : Option Nat

/-- The chomping that a character asks for. -/
def chomping? : Option Char → Option Chomping
  | some '+' => some .keep
  | some '-' => some .strip
  | _ => none

/-- The indentation that a digit asks for; it cannot be zero. -/
def readIncrement (s : Source) : Except Error (Option Nat × Source) :=
  match s.peek with
  | some c =>
    if c.isDigit then
      if c == '0' then s.fail .zeroIndentation
      else .ok (some (c.toNat - '0'.toNat), s.skip 1)
    else .ok (none, s)
  | none => .ok (none, s)

/-- The two indicators of a header, in either order. -/
def readIndicators (s : Source) : Except Error (BlockHeader × Source) := do
  match chomping? s.peek with
  | some chomping =>
    let (increment?, s) ← readIncrement (s.skip 1)
    return (⟨chomping, increment?⟩, s)
  | none =>
    let (increment?, s) ← readIncrement s
    if increment?.isSome then
      match chomping? s.peek with
      | some chomping => return (⟨chomping, increment?⟩, s.skip 1)
      | none => return (⟨.clip, increment?⟩, s)
    else return (⟨.clip, none⟩, s)

/-- The source behind blanks and a comment, which is the end of a line or of the text. -/
def skipLineEnd (problem : Problem) (s : Source) : Except Error Source :=
  let s := s.skipWhile isSpace
  let s := if s.peek == some '#' then s.skipWhile (fun c => !isBreak c) else s
  match s.peek with
  | none => .ok s
  | some c => if isBreak c then .ok s.skipBreak else s.fail problem

/-- The header of a block scalar, from behind the sign that starts it up to the next line. -/
def readHeader (s : Source) : Except Error (BlockHeader × Source) := do
  let (header, s) ← readIndicators s
  return (header, ← skipLineEnd .blockHeaderEnd s)

/-- The lines of a block scalar that were read so far. -/
structure BlockLines where
  /-- The characters so far, in reverse. -/
  out : List Char
  /-- The break behind the last line. -/
  lineBreak : List Char
  /-- The breaks of the empty lines behind that. -/
  emptyBreaks : List Char
  /-- Whether the last line starts with a blank. -/
  indented : Bool

namespace BlockLines

/-- No lines. -/
def empty : BlockLines := ⟨[], [], [], false⟩

/-- The lines with a further line about to start. In a folded scalar the break in front of it is
folded, unless one of the two lines starts with a blank. -/
def startLine (b : BlockLines) (literal : Bool) (first : Char) : BlockLines :=
  let indented := isSpace first
  let breaks :=
    if !literal && b.lineBreak = ['\n'] && !b.indented && !indented then
      if b.emptyBreaks.isEmpty then [' '] else b.emptyBreaks
    else b.lineBreak ++ b.emptyBreaks
  ⟨breaks.reverse ++ b.out, [], [], indented⟩

/-- The text of the lines. -/
def finish (b : BlockLines) (chomping : Chomping) : List Char :=
  b.out.reverse ++
    match chomping with
    | .strip => []
    | .clip => b.lineBreak
    | .keep => b.lineBreak ++ b.emptyBreaks

end BlockLines

/-- Where the reading of a block scalar stands within a line. -/
inductive BlockPlace
  /-- In the indentation; the greatest column of the empty lines so far. -/
  | indentation (deepest : Nat)
  /-- In the content. -/
  | content
  deriving DecidableEq, Repr

/-- What stays the same while a block scalar is read. -/
structure BlockFrame where
  literal : Bool
  chomping : Chomping
  /-- The least indentation that the surrounding block allows. -/
  least : Nat

/-- The rest of a block scalar. `indent?` is its indentation, once it is known. -/
def blockFrom (f : BlockFrame) (indent? : Option Nat) (place : BlockPlace) (b : BlockLines)
    (mark : Mark) : List Char → Except Error ReadScalar
  | [] => .ok ⟨b.finish f.chomping, ⟨[], mark⟩, false⟩
  | c :: rest =>
    if isSplitReturn c rest then blockFrom f indent? place b mark.insideBreak rest
    else
      match place with
      | .content =>
        if isBreak c then
          blockFrom f indent? (.indentation 0) { b with lineBreak := [breakText c] }
            mark.nextLine rest
        else blockFrom f indent? .content { b with out := c :: b.out } (mark.advance 1) rest
      | .indentation deepest =>
        let shallow := indent?.all fun indent => mark.column < indent
        if shallow && c == ' ' then blockFrom f indent? place b (mark.advance 1) rest
        else if shallow && c == '\t' then .error (.atMark .tabIndentation mark)
        else if isBreak c then
          blockFrom f indent? (.indentation (max deepest mark.column))
            { b with emptyBreaks := b.emptyBreaks ++ [breakText c] } mark.nextLine rest
        else
          let indent := indent?.getD (max (max deepest mark.column) f.least)
          if mark.column = indent then
            let b := b.startLine f.literal c
            blockFrom f (some indent) .content { b with out := c :: b.out } (mark.advance 1) rest
          else .ok ⟨b.finish f.chomping, ⟨c :: rest, mark⟩, false⟩

/-- The block scalar at the start of the source, behind the sign that starts it. `parent` is the
first column behind the indentation of the surrounding block. -/
def readBlock (literal : Bool) (parent : Nat) (s : Source) : Except Error ReadScalar := do
  let (header, s) ← readHeader s
  let indent? := header.increment?.map fun n => if parent = 0 then n else parent - 1 + n
  blockFrom ⟨literal, header.chomping, max parent 1⟩ indent? (.indentation 0) .empty s.mark s.rest

end RuleDelta.Yaml

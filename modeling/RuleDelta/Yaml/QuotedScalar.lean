import RuleDelta.Yaml.PlainScalar
import RuleDelta.Text.Numeral

/-!
# Quoted scalars

Between single quotes only the quote itself is special: it is written twice. Between double quotes
a backslash starts an escape. Line breaks are folded in both.
-/

namespace RuleDelta.Yaml

open Text

/-- The character that a backslash and this letter stand for. -/
def letterEscape? : Char → Option Char
  | '0' => some '\x00'
  | 'a' => some '\x07'
  | 'b' => some '\x08'
  | 't' | '\t' => some '\t'
  | 'n' => some '\n'
  | 'v' => some '\x0B'
  | 'f' => some '\x0C'
  | 'r' => some '\r'
  | 'e' => some '\x1B'
  | ' ' => some ' '
  | '"' => some '"'
  | '/' => some '/'
  | '\\' => some '\\'
  | 'N' => some '\u0085'
  | '_' => some '\u00A0'
  | 'L' => some '\u2028'
  | 'P' => some '\u2029'
  | _ => none

/-- The number of hexadecimal digits behind a backslash and this letter. -/
def codeLength? : Char → Option Nat
  | 'x' => some 2
  | 'u' => some 4
  | 'U' => some 8
  | _ => none

/-- The character that an escape stands for, given what follows its backslash, and the number of
characters of the escape behind the backslash. -/
def readEscape (mark : Mark) : List Char → Except Error (Char × Nat)
  | [] => .error (.atMark .unknownEscape mark)
  | e :: rest =>
    match letterEscape? e, codeLength? e with
    | some c, _ => .ok (c, 1)
    | none, none => .error (.atMark .unknownEscape mark)
    | none, some length =>
      let code := rest.take length
      match if code.length = length then digits? 16 code else none with
      | none => .error (.atMark .hexadecimalEscape (mark.advance 2))
      | some n =>
        if n.isValidChar then .ok (Char.ofNat n, length + 1)
        else .error (.atMark .invalidEscape (mark.advance 2))

/-- The rest of a quoted scalar, once `skip` characters are passed over. `out` holds its characters
so far in reverse, and `gap` the white space behind them. -/
def quotedFrom (double : Bool) (skip : Nat) (gap : Gap) (out : List Char) (mark : Mark) :
    List Char → Except Error ReadScalar
  | [] => .error (.atMark .unclosedQuote mark)
  | c :: rest =>
    match skip with
    | skip + 1 => quotedFrom double skip gap out (mark.advance 1) rest
    | 0 =>
      let out' := gap.text.reverse ++ out
      if isSplitReturn c rest then quotedFrom double 0 gap out mark.insideBreak rest
      else if isBreak c then quotedFrom double 0 (gap.addBreak c) out mark.nextLine rest
      else if isSpace c then quotedFrom double 0 (gap.addBlank c) out (mark.advance 1) rest
      else if Source.atDocumentMarker ⟨c :: rest, mark⟩ then .error (.atMark .markerInQuotes mark)
      else if c == '\'' && !double then
        if rest.head? == some '\'' then
          quotedFrom double 1 .empty ('\'' :: out') (mark.advance 1) rest
        else .ok ⟨out'.reverse, ⟨rest, mark.advance 1⟩, false⟩
      else if c == '"' && double then .ok ⟨out'.reverse, ⟨rest, mark.advance 1⟩, false⟩
      else if c == '\\' && double then
        if rest.head?.any isBreak then quotedFrom double 0 .escapedBreak out' (mark.advance 1) rest
        else
          match readEscape mark rest with
          | .error e => .error e
          | .ok (x, length) => quotedFrom double length .empty (x :: out') (mark.advance 1) rest
      else quotedFrom double 0 .empty (c :: out') (mark.advance 1) rest

/-- The quoted scalar at the start of the source, behind its opening quote. -/
def readQuoted (double : Bool) (s : Source) : Except Error ReadScalar :=
  quotedFrom double 0 .empty [] s.mark s.rest

end RuleDelta.Yaml

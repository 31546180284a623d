import RuleDelta.Yaml.Folding

/-!
# Plain scalars

A plain scalar ends in front of an indicator, a comment, a document marker, or a line that is not
indented deep enough. `readPlain` reads one from its first character on.
-/

namespace RuleDelta.Yaml

/-- A scalar that was read, and what is left behind it. -/
structure ReadScalar where
  text : List Char
  source : Source
  /-- Whether the white space behind the scalar has a line break. -/
  broken : Bool

/-- An indicator that ends a plain scalar inside of a flow collection. -/
def isFlowIndicator (c : Char) : Bool :=
  c == ',' || c == '[' || c == ']' || c == '{' || c == '}'

/-- Whether a scalar whose words were separated by `gap` cannot go on here. -/
def plainStopsAfter (gap : Gap) (flow : Bool) (indent : Nat) (s : Source) : Bool :=
  !gap.isEmpty &&
    ((!flow && s.mark.column < indent) || s.atDocumentMarker || s.peek == some '#')

/-- The plain scalar that goes on with the characters given. `out` holds its characters so far in
reverse, and `gap` the white space behind them. -/
def plainFrom (flow : Bool) (indent : Nat) (gap : Gap) (out : List Char) (mark : Mark) :
    List Char → Except Error ReadScalar
  | [] => .ok ⟨out.reverse, ⟨[], mark⟩, gap.broken⟩
  | c :: rest =>
    if isSplitReturn c rest then plainFrom flow indent gap out mark.insideBreak rest
    else if isBreak c then plainFrom flow indent (gap.addBreak c) out mark.nextLine rest
    else if isSpace c then
      if gap.broken && mark.column < indent && c == '\t' then
        .error (.atMark .tabIndentation mark)
      else plainFrom flow indent (gap.addBlank c) out (mark.advance 1) rest
    else if plainStopsAfter gap flow indent ⟨c :: rest, mark⟩ then
      .ok ⟨out.reverse, ⟨c :: rest, mark⟩, gap.broken⟩
    else if flow && c == ':' &&
        rest.head?.any (fun d => isFlowIndicator d || d == '?') then
      .error (.atMark .colonInFlow mark)
    else if (c == ':' && endsWord rest.head?) || (flow && isFlowIndicator c) then
      .ok ⟨out.reverse, ⟨c :: rest, mark⟩, gap.broken⟩
    else plainFrom flow indent .empty (c :: (gap.text.reverse ++ out)) (mark.advance 1) rest

/-- The plain scalar at the start of the source, whose further lines start at column `indent` or
behind it. -/
def readPlain (flow : Bool) (indent : Nat) (s : Source) : Except Error ReadScalar :=
  plainFrom flow indent .empty [] s.mark s.rest

end RuleDelta.Yaml

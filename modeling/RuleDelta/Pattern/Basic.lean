import RuleDelta.Unicode.Property

/-!
# Patterns

A pattern describes texts: characters in a row, choices, repetitions and conditions on the place
between two characters. `Pattern.matches` says whether a pattern describes some part of a text.

A run of a pattern goes from a set of places in the text to the set of places where a part that the
pattern describes can end. Place `k` of a text lies behind its first `k` characters, and a set of
places is a number with bit `k` set for each of its places `k`. A search for a part anywhere starts
from all places at once.

* `Look` are the conditions on a place;
* `Pattern.run` is the run from a set of places;
* `Pattern.isMatch` is the search.
-/

namespace RuleDelta

open Unicode

/-- Whether a character belongs to words, among all characters or only the ASCII ones. -/
def isWordChar (unicode : Bool) (c : Char) : Bool :=
  c.isAlphanum || c == '_' || (unicode && 0x7F < c.toNat && wordChars.has c)

/-- A condition on the words around a place. -/
inductive WordLook
  | boundary
  | noBoundary
  | start
  | stop
  /-- No word ends here. -/
  | startHalf
  /-- No word starts here. -/
  | stopHalf
  deriving DecidableEq, Repr

/-- A condition on a place. -/
inductive Look
  | textStart
  | textEnd
  /-- A line starts; with `crlf` a carriage return ends lines too. -/
  | lineStart (crlf : Bool)
  | lineEnd (crlf : Bool)
  | word (look : WordLook) (unicode : Bool)
  deriving DecidableEq, Repr

/-- Whether the condition holds between a word or none and a word or none. -/
def WordLook.holds (before after : Bool) : WordLook → Bool
  | boundary => before != after
  | noBoundary => before == after
  | start => !before && after
  | stop => before && !after
  | startHalf => !before
  | stopHalf => !after

/-- Whether the condition holds between two characters, either of which may be missing. -/
def Look.holds (before after : Option Char) : Look → Bool
  | textStart => before.isNone
  | textEnd => after.isNone
  | lineStart false => before.all (· == '\n')
  | lineEnd false => after.all (· == '\n')
  | lineStart true => before.all (· == '\n') || (before == some '\r' && after != some '\n')
  | lineEnd true => after.all (· == '\r') || (after == some '\n' && before != some '\r')
  | word look unicode => look.holds (before.any (isWordChar unicode)) (after.any (isWordChar unicode))

/-- A description of texts. -/
inductive Pattern
  /-- One character of a set. -/
  | chars (set : CharSet)
  /-- Nothing, in a place with a condition. -/
  | look (look : Look)
  /-- Parts in a row. -/
  | seq (parts : List Pattern)
  /-- One of several. -/
  | alt (branches : List Pattern)
  | group (inner : Pattern)
  /-- The inner pattern at least `min` times, and at most `max?` times if there is such a bound. -/
  | repeated (inner : Pattern) (min : Nat) (max? : Option Nat)

namespace Pattern

/-- The places of a text where a condition on the characters before and after the place holds. -/
def placesFrom (holds : Option Char → Option Char → Bool) (before : Option Char) :
    List Char → Nat
  | [] => (holds before none).toNat
  | c :: rest => (holds before (some c)).toNat + 2 * placesFrom holds (some c) rest

/-- The places of a text where a condition holds. -/
def places (holds : Option Char → Option Char → Bool) (text : List Char) : Nat :=
  placesFrom holds none text

/-- The places that `step` leads to in so many steps. -/
def after (step : Nat → Nat) : Nat → Nat → Nat
  | 0, here => here
  | n + 1, here => after step n (step here)

/-- The places that `step` leads to in at most so many steps. Once a step leads to no new place,
none will. -/
def within (step : Nat → Nat) : Nat → Nat → Nat
  | 0, here => here
  | n + 1, here =>
    let next := here ||| step here
    if next = here then here else within step n next

/-- The places that `step` leads to in at least `min` and at most `max?` steps. More steps than
there are places make no difference. -/
def repeatedly (places : Nat) (step : Nat → Nat) (min : Nat) (max? : Option Nat) (here : Nat) :
    Nat :=
  let more := match max? with
    | some max => Nat.min (max - min) places
    | none => places
  within step more (after step (Nat.min min places) here)

mutual

/-- The places where a part can end that starts in one of the given places. -/
def run (text : List Char) : Pattern → Nat → Nat
  | chars set, here => (here &&& places (fun _ next => next.any set.has) text) <<< 1
  | look l, here => here &&& places l.holds text
  | seq parts, here => runSeq text parts here
  | alt branches, here => runAlt text branches here
  | group inner, here => run text inner here
  | repeated inner min max?, here =>
    repeatedly (text.length + 1) (run text inner) min max? here

/-- The places behind parts in a row. -/
def runSeq (text : List Char) : List Pattern → Nat → Nat
  | [], here => here
  | p :: ps, here => runSeq text ps (run text p here)

/-- The places behind one of several parts. -/
def runAlt (text : List Char) : List Pattern → Nat → Nat
  | [], _ => 0
  | p :: ps, here => run text p here ||| runAlt text ps here

end

/-- Whether the pattern describes some part of the text. -/
def isMatch (p : Pattern) (text : List Char) : Bool :=
  p.run text (places (fun _ _ => true) text) != 0

/-! ## Limits -/

mutual

/-- How deep the pattern is nested. -/
def depth : Pattern → Nat
  | chars _ | look _ => 0
  | seq parts => depthOfAll parts + 1
  | alt branches => depthOfAll branches + 1
  | group inner | repeated inner _ _ => depth inner + 1

/-- The depth of the deepest of some patterns. -/
def depthOfAll : List Pattern → Nat
  | [] => 0
  | p :: ps => max (depth p) (depthOfAll ps)

end

mutual

/-- Whether the pattern describes empty texts only. -/
def isEmpty : Pattern → Bool
  | chars _ => false
  | look _ => true
  | seq parts => areEmpty parts
  | alt branches => areEmpty branches
  | group inner => isEmpty inner
  | repeated inner _ max? => max? == some 0 || isEmpty inner

/-- Whether all patterns describe empty texts only. -/
def areEmpty : List Pattern → Bool
  | [] => true
  | p :: ps => isEmpty p && areEmpty ps

end

/-- The room in bytes that an automaton takes to read one character of a set. -/
def sizeOfSet (set : CharSet) : Nat :=
  if set.isAscii then if set.ranges.length ≤ 1 then 32 else 32 + 8 * set.ranges.length
  else 64 + 48 * set.ranges.length

/-- The room that repetitions of a part take. Each optional one has a branch of its own. -/
def sizeOfRepeated (inner min : Nat) : Option Nat → Nat
  | none => (max min 1) * inner + 40
  | some most => min * inner + (most - min) * (inner + 40) + 32

mutual

/-- The room in bytes that an automaton for the pattern takes. -/
def size : Pattern → Nat
  | chars set => sizeOfSet set
  | look _ => 32
  | seq parts => if parts.isEmpty then 32 else sizeOfAll parts
  | alt branches => sizeOfAll branches + 4 * branches.length + 64
  | group inner => size inner + 64
  | repeated inner min max? =>
    if isEmpty inner then size inner + 64 else sizeOfRepeated (size inner) min max?

/-- The room that some patterns take. -/
def sizeOfAll : List Pattern → Nat
  | [] => 0
  | p :: ps => size p + sizeOfAll ps

end

end Pattern

end RuleDelta

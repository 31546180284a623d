import RuleDelta.Change.Entry

/-!
# Pairings

The rules of the two sides of a changed file are paired. Each rule of the new side takes its partner
from a pool of rules of the old side: the first one that is identical or, without such, the only
one of the same name and kind. Where several have the name and kind, none is taken.

* `Pairing` is a pair, or a rule alone;
* `pairEntries` are the pairings of two sides.
-/

namespace RuleDelta

/-- A rule before and after a change. -/
structure Pairing where
  before? : Option Entry
  after? : Option Entry
  /-- The two say the same. -/
  isIdentical : Bool
  /-- The two say the same in different files. -/
  wasMoved : Bool

namespace Pairing

/-- A rule of the new side alone. -/
def added (after : Entry) : Pairing := ⟨none, some after, false, false⟩

/-- A rule of the old side alone. -/
def removed (before : Entry) : Pairing := ⟨some before, none, false, false⟩

/-- Two rules that say the same. -/
def identical (before after : Entry) : Pairing :=
  ⟨some before, some after, true, after.sourcePath != before.sourcePath⟩

/-- Two rules of the same name and kind. -/
def renewed (before after : Entry) : Pairing := ⟨some before, some after, false, false⟩

end Pairing

/-- Whether an entry can be found by a name and a kind. -/
def Entry.isCalled (name : String) (kind : RuleKind) (e : Entry) : Bool :=
  e.pathError.isNone && e.rule.kind == kind && e.rule.name == name

/-- The entries that cannot be found by a name and a kind, and those that can. -/
def splitByName (name : String) (kind : RuleKind) (entries : List Entry) :
    List Entry × List Entry :=
  (entries.filter fun e => !e.isCalled name kind, entries.filter fun e => e.isCalled name kind)

/-- The first entry whose rule is identical to another, and the entries without it. -/
def takeIdentical? (rule : Rule) : List Entry → Option (Entry × List Entry)
  | [] => none
  | b :: rest =>
    if rule.isIdentical b.rule then some (b, rest)
    else (takeIdentical? rule rest).map fun (found, others) => (found, b :: others)

/-- The pairing of a rule of the new side by its name and kind, and the pool behind it. Several
candidates go to the end of the pool. -/
def pairByName (pool : List Entry) (after : Entry) : Pairing × List Entry :=
  match splitByName after.rule.name after.rule.kind pool with
  | (rest, []) => (.added after, rest)
  | (rest, [before]) => (.renewed before after, rest)
  | (rest, candidates) => (.added after, rest ++ candidates)

/-- The pairing of a rule of the new side, and the pool behind it. A rule without a name is paired
by its kind only. -/
def pairOne (pool : List Entry) (after : Entry) : Pairing × List Entry :=
  match if after.rule.name.isEmpty then none else takeIdentical? after.rule pool with
  | some (before, rest) => (.identical before after, rest)
  | none => pairByName pool after

/-- The pairings of the rules of both sides: those of the new side in its order, then what is left
of the old side. -/
def pairEntries (before : List Entry) : List Entry → List Pairing
  | [] => before.map .removed
  | a :: rest =>
    let (pairing, pool) := pairOne before a
    pairing :: pairEntries pool rest

end RuleDelta

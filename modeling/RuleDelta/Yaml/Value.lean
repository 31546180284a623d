import RuleDelta.Decimal.Binary64

/-!
# Values

What a YAML document stands for. Two values are the same when they say the same: the entries of a
mapping have no order, a number that is not a number is the same as another such, and the zeros of
either sign are the same, but a whole number is never the same as a binary one.
-/

namespace RuleDelta.Yaml

/-- The value of a document or of a part of it. -/
inductive Value
  | null
  | bool (b : Bool)
  | int (n : Int)
  /-- A binary number by its bits. -/
  | float (bits : UInt64)
  | string (s : String)
  | sequence (items : List Value)
  /-- Keys and values in the order of the text. -/
  | mapping (entries : List (Value × Value))
  /-- A value with a tag of the application, without its exclamation mark. -/
  | tagged (tag : String) (value : Value)
  deriving Repr

namespace Value

instance : Inhabited Value := ⟨null⟩

/-- Whether the bits are those of a number that is not a number. -/
def isNanBits (bits : UInt64) : Bool :=
  bits &&& ~~~Decimal.signBit > Decimal.infinityBits

/-- Whether two binary numbers are the same. -/
def sameBits (a b : UInt64) : Bool :=
  (isNanBits a && isNanBits b) || (a == b && !isNanBits a) ||
    (a ||| b) &&& ~~~Decimal.signBit == 0

mutual

/-- Whether two values are the same. -/
def same : Value → Value → Bool
  | null, null => true
  | bool a, bool b => a == b
  | int a, int b => a == b
  | float a, float b => sameBits a b
  | string a, string b => a == b
  | sequence as, sequence bs => sameItems as bs
  | mapping as, mapping bs => as.length == bs.length && entriesIn as bs
  | tagged s a, tagged t b => s == t && same a b
  | _, _ => false

/-- Whether two lists of values are the same, place by place. -/
def sameItems : List Value → List Value → Bool
  | [], [] => true
  | a :: as, b :: bs => same a b && sameItems as bs
  | _, _ => false

/-- Whether every entry has a partner in the second list: the first entry there with the same key
has the same value. -/
def entriesIn : List (Value × Value) → List (Value × Value) → Bool
  | [], _ => true
  | (k, v) :: rest, bs =>
    (match bs.find? fun (k', _) => same k k' with
      | some (_, v') => same v v'
      | none => false) && entriesIn rest bs

end

/-- The value without its tags. -/
def untagged : Value → Value
  | tagged _ v => v.untagged
  | v => v

/-- The text of a value that is a text, whatever its tags. -/
def text? (v : Value) : Option String :=
  match v.untagged with
  | string s => some s
  | _ => none

/-- The value under a key of a mapping that is a text without a tag. -/
def field? (v : Value) (key : String) : Option Value :=
  match v with
  | mapping entries =>
    (entries.find? fun (k, _) => match k with
      | string s => s == key
      | _ => false).map Prod.snd
  | _ => none

end Value

end RuleDelta.Yaml

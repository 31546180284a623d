/-!
# JSON texts

The values that reports and records are made of, and their two written forms: on one line without
spaces, and with one item per line.

* `JsonValue.compact` is the form on one line;
* `JsonValue.pretty` is the form with an indentation of two spaces;
* `JsonWriter` is what writes values on one line, and `jsonWriter` the writer of this library.
-/

namespace RuleDelta

/-- A value of JSON, without null, truth values and fractions. -/
inductive JsonValue
  | string (s : String)
  | number (n : Nat)
  | array (items : List JsonValue)
  | object (fields : List (String × JsonValue))

namespace JsonValue

/-- The letter that stands for a character behind a backslash. -/
def escapeLetter? (c : Char) : Option Char :=
  [('"', '"'), ('\\', '\\'), ('\x08', 'b'), ('\x0c', 'f'), ('\n', 'n'), ('\r', 'r'),
    ('\t', 't')].lookup c

/-- A character of a text in quotes. -/
def quotedChar (c : Char) : List Char :=
  match escapeLetter? c with
  | some letter => ['\\', letter]
  | none =>
    if c.toNat < 0x20 then
      ['\\', 'u', '0', '0', Nat.digitChar (c.toNat / 16), Nat.digitChar (c.toNat % 16)]
    else [c]

/-- A text in quotes. -/
def quoted (s : String) : List Char :=
  '"' :: s.toList.flatMap quotedChar ++ ['"']

/-- A number in decimal. -/
def decimal (n : Nat) : List Char :=
  Nat.toDigits 10 n

/-- Texts with a separator in between. -/
def separated (separator : List Char) : List (List Char) → List Char
  | [] => []
  | [s] => s
  | s :: rest => s ++ separator ++ separated separator rest

mutual

/-- The form on one line. -/
def compact : JsonValue → List Char
  | string s => quoted s
  | number n => decimal n
  | array items => '[' :: separated [','] (compactItems items) ++ [']']
  | object fields => '\x7b' :: separated [','] (compactFields fields) ++ ['\x7d']

/-- The forms of some items. -/
def compactItems : List JsonValue → List (List Char)
  | [] => []
  | item :: rest => compact item :: compactItems rest

/-- The forms of some fields. -/
def compactFields : List (String × JsonValue) → List (List Char)
  | [] => []
  | (key, value) :: rest => (quoted key ++ ':' :: compact value) :: compactFields rest

end

/-- A new line with an indentation. -/
def newLine (depth : Nat) : List Char :=
  '\n' :: List.replicate (2 * depth) ' '

/-- Items on lines of their own, in brackets. Without items the brackets are on one line. -/
def bracketed (depth : Nat) (opening closing : Char) (items : List (List Char)) : List Char :=
  if items.isEmpty then [opening, closing]
  else
    opening :: newLine (depth + 1) ++ separated (',' :: newLine (depth + 1)) items ++
      newLine depth ++ [closing]

mutual

/-- The form with one item per line, inside of so many brackets. -/
def prettyAt (depth : Nat) : JsonValue → List Char
  | string s => quoted s
  | number n => decimal n
  | array items => bracketed depth '[' ']' (prettyItems (depth + 1) items)
  | object fields => bracketed depth '\x7b' '\x7d' (prettyFields (depth + 1) fields)

/-- The forms of some items. -/
def prettyItems (depth : Nat) : List JsonValue → List (List Char)
  | [] => []
  | item :: rest => prettyAt depth item :: prettyItems depth rest

/-- The forms of some fields. -/
def prettyFields (depth : Nat) : List (String × JsonValue) → List (List Char)
  | [] => []
  | (key, value) :: rest =>
    (quoted key ++ ':' :: ' ' :: prettyAt depth value) :: prettyFields depth rest

end

/-- The form with one item per line. -/
def pretty (v : JsonValue) : List Char :=
  prettyAt 0 v

end JsonValue

/-- A writer of values on one line, or why a value cannot be written. -/
abbrev JsonWriter := JsonValue → Except String (List Char)

/-- The writer of this library. -/
def jsonWriter : JsonWriter := fun v =>
  .ok v.compact

end RuleDelta

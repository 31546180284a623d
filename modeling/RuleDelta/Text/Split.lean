/-!
# Splitting texts

Cutting a text at a word or a character. A cut names what stands in front of the place and what
stands behind it, and it is `none` when the place does not exist.
-/

namespace RuleDelta.Text

/-- What follows `word` at the start of the text. -/
def dropWord? : List Char → List Char → Option (List Char)
  | [], s => some s
  | _ :: _, [] => none
  | w :: ws, c :: cs => if w = c then dropWord? ws cs else none

/-- Whether the text starts with `word`. -/
def startsWith (s word : List Char) : Bool :=
  (dropWord? word s).isSome

/-- What precedes `word` at the end of the text. -/
def dropWordEnd? (word s : List Char) : Option (List Char) :=
  (dropWord? word.reverse s.reverse).map List.reverse

/-- The text in front of the first `word` and the text behind it. -/
def splitFirst? (word : List Char) : List Char → Option (List Char × List Char)
  | [] => (dropWord? word []).map fun rest => ([], rest)
  | c :: cs =>
    match dropWord? word (c :: cs) with
    | some rest => some ([], rest)
    | none => (splitFirst? word cs).map fun (before, after) => (c :: before, after)

/-- The text in front of the last `word` and the text behind it. -/
def splitLast? (word s : List Char) : Option (List Char × List Char) :=
  (splitFirst? word.reverse s.reverse).map fun (after, before) =>
    (before.reverse, after.reverse)

/-- Whether `word` occurs in the text. -/
def contains (s word : List Char) : Bool :=
  (splitFirst? word s).isSome

/-- The parts of the text between the separators; one more than there are separators. -/
def splitAt (separator : Char) : List Char → List (List Char)
  | [] => [[]]
  | c :: cs =>
    if c = separator then [] :: splitAt separator cs
    else
      match splitAt separator cs with
      | [] => [[c]]
      | p :: ps => (c :: p) :: ps

theorem splitAt_ne_nil (separator : Char) (s : List Char) : splitAt separator s ≠ [] := by
  cases s with
  | nil => simp [splitAt]
  | cons c cs =>
    unfold splitAt
    split
    · simp
    · split <;> simp

theorem dropWord?_eq_some_iff {word s rest : List Char} :
    dropWord? word s = some rest ↔ s = word ++ rest := by
  induction word generalizing s with
  | nil => simp [dropWord?, eq_comm]
  | cons w ws ih =>
    cases s with
    | nil => simp [dropWord?]
    | cons c cs =>
      by_cases h : w = c
      · simp [dropWord?, h, ih]
      · simp [dropWord?, h, Ne.symm h]

end RuleDelta.Text

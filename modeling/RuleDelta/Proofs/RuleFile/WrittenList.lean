import Mathlib.Data.List.DropRight
import RuleDelta.Proofs.RuleFile.Renumber

/-!
# The items of a list as they are written

A key for rules with its items below, one dash under the other, is found as it is written: as one
group with one item for each dash, which ends at its last line with content. Behind the list the
scan goes on as if it started there.

* `WrittenItem` and `WrittenList` are items and lists as they are written, with blanks, comments and
  block scalars anywhere, and `WrittenList.group` is the group of a list;
* `readRows_item` and `readRows_items` say how they are read;
* `groupsOf_list` is the result, for a list anywhere in a file.
-/

namespace RuleDelta.RuleFile

/-- The groups of some marked lines. -/
def groupsOf (rows : List MarkedLine) : List RuleGroup :=
  groups (rows.map Prod.fst) (rows.map Prod.snd)

theorem groupsOf_eq (rows : List MarkedLine) : groupsOf rows = groupsFrom 1 none rows := by
  have hzip : (rows.map Prod.fst).zip (rows.map Prod.snd) = rows :=
    (List.zip_of_prod rfl rfl).symm
  rw [groupsOf, groups, hzip]

/-! ## Written items -/

/-- The line is content of a block scalar, or it has text. -/
def hasContent (row : MarkedLine) : Bool :=
  row.2 || !isBlankOrComment row.1

/-- The number of lines up to the last with content. -/
def contentLength (rows : List MarkedLine) : Nat :=
  (rows.rdropWhile fun row => !hasContent row).length

theorem contentLength_concat (rows : List MarkedLine) (row : MarkedLine) :
    contentLength (rows ++ [row]) =
      if hasContent row then rows.length + 1 else contentLength rows := by
  cases hcontent : hasContent row <;> simp [contentLength, hcontent]

theorem contentLength_le (rows : List MarkedLine) : contentLength rows ≤ rows.length :=
  (List.rdropWhile_prefix (fun row => !hasContent row) rows).length_le

/-- An item that reaches from its first line over so many lines more. -/
def RuleBlock.reaching (line more dash : Nat) : RuleBlock where
  lines := { first := line, last := line + more }
  dash := dash

theorem RuleBlock.extend_reaching {more rows : Nat} (h : more ≤ rows) (line dash : Nat) :
    (reaching line more dash).extend (line + 1 + rows) = reaching line (rows + 1) dash := by
  have hmax : max (line + more) (line + 1 + rows) = line + (rows + 1) := by omega
  simp [reaching, extend, hmax]

/-- An item with its dash at a column, as it is written. -/
structure WrittenItem (dash : Nat) where
  /-- The line with the dash. -/
  first : List Char
  /-- The lines below. -/
  more : List MarkedLine
  indentOf_first : indentOf first = dash
  isListItem_first : isListItem (unindented first) = true
  /-- A line below is content of a block scalar, blank, a comment, or it is indented deeper. -/
  inside : ∀ row ∈ more, row.2 = true ∨ isBlankOrComment row.1 = true ∨ dash < indentOf row.1

namespace WrittenItem

variable {dash : Nat}

/-- The lines of an item. -/
def rows (i : WrittenItem dash) : List MarkedLine :=
  (i.first, false) :: i.more

/-- The item from number `line` on, up to its last line with content. -/
def block (i : WrittenItem dash) (line : Nat) : RuleBlock :=
  .reaching line (contentLength i.more) dash

/-- Items from number `line` on, one below the other. -/
def blocks (line : Nat) : List (WrittenItem dash) → List RuleBlock
  | [] => []
  | i :: is => i.block line :: blocks (line + i.rows.length) is

end WrittenItem

/-! ## Reading items -/

namespace OpenGroup

/-- The group with another item behind its last one. -/
def push (g : OpenGroup) (b : RuleBlock) : OpenGroup :=
  { g with finished := g.current.toList ++ g.finished, current := some b }

/-- The group goes on with items whose dash is at this column. -/
def Takes (g : OpenGroup) (dash : Nat) : Prop :=
  match g.current with
  | none => g.indent ≤ dash
  | some b => b.dash = dash

theorem startItem_eq_push (g : OpenGroup) (line dash : Nat) :
    g.startItem line dash = g.push (.start line dash) := rfl

theorem extend_push (g : OpenGroup) (b : RuleBlock) (line : Nat) :
    (g.push b).extend line = g.push (b.extend line) := rfl

theorem takes_push (g : OpenGroup) (b : RuleBlock) : (g.push b).Takes b.dash := rfl

theorem close_push (g : OpenGroup) (b : RuleBlock) :
    (g.push b).close = ⟨g.close.keyLine, g.close.blocks ++ [b]⟩ := by
  simp [close, push]

theorem close_foldl_push (g : OpenGroup) (bs : List RuleBlock) :
    (bs.foldl push g).close = ⟨g.close.keyLine, g.close.blocks ++ bs⟩ := by
  induction bs generalizing g with
  | nil => simp
  | cons b bs ih => rw [List.foldl_cons, ih, close_push, List.append_assoc, List.singleton_append]

/-- A dash at the column of the items starts a further item. -/
theorem readLine_dash {g : OpenGroup} {line dash : Nat} {s : List Char} (hg : g.Takes dash)
    (hindent : indentOf s = dash) (hitem : isListItem (unindented s) = true) :
    readLine line (some g) s false = ([], some (g.push (.start line dash))) := by
  have hread : g.read? line s = some (g.push (.start line dash)) := by
    cases hcurrent : g.current with
    | none =>
      have hle : g.indent ≤ indentOf s := by
        simpa [Takes, hcurrent, hindent] using hg
      rw [read?_of_none hcurrent, if_pos ⟨hitem, hle⟩, hindent, startItem_eq_push]
    | some b =>
      have hdash : b.dash = dash := by
        simpa [Takes, hcurrent] using hg
      rw [read?_of_some hcurrent, if_neg (by omega), if_pos ⟨by omega, hitem⟩, hindent,
        startItem_eq_push]
  simp [readLine, isBlankOrComment_of_isListItem hitem, hread]

/-- A line of an item extends it, if it has content. -/
theorem readLine_inside (g : OpenGroup) (b : RuleBlock) (line : Nat) {row : MarkedLine}
    (h : row.2 = true ∨ isBlankOrComment row.1 = true ∨ b.dash < indentOf row.1) :
    readLine line (some (g.push b)) row.1 row.2 =
      ([], some (g.push (if hasContent row then b.extend line else b))) := by
  obtain ⟨s, marked⟩ := row
  cases marked with
  | true => rfl
  | false =>
    by_cases hblank : isBlankOrComment s = true
    · simp [readLine_of_isBlankOrComment hblank, hasContent, hblank]
    · have hdeeper : b.dash < indentOf s := by
        simpa [hblank] using h
      have hread : (g.push b).read? line s = some (g.push (b.extend line)) := by
        rw [read?_of_some (b := b) rfl, if_pos hdeeper, extend_push]
      simp [readLine, hblank, hread, hasContent]

end OpenGroup

open OpenGroup

variable {dash : Nat}

/-- The lines below a dash extend the item up to the last that has content: the induction is on the
lines from the end. -/
theorem readRows_inside (g : OpenGroup) {line : Nat} {rows : List MarkedLine}
    (h : ∀ row ∈ rows, row.2 = true ∨ isBlankOrComment row.1 = true ∨ dash < indentOf row.1) :
    readRows (line + 1) (some (g.push (.start line dash))) rows =
      ([], some (g.push (.reaching line (contentLength rows) dash))) := by
  induction rows using List.reverseRecOn with
  | nil => rfl
  | append_singleton rows row ih =>
    obtain ⟨hrows, hrow⟩ := List.forall_mem_append.mp h
    have hread := g.readLine_inside (.reaching line (contentLength rows) dash)
      (line + 1 + rows.length) (hrow row (by simp))
    rw [readRows_append, ih hrows, readRows_cons, hread, contentLength_concat]
    cases hasContent row with
    | false => rfl
    | true =>
      simp only [if_true, RuleBlock.extend_reaching (contentLength_le rows)]
      rfl

/-- **An item is read as it is written.** -/
theorem readRows_item {g : OpenGroup} (hg : g.Takes dash) (line : Nat) (i : WrittenItem dash) :
    readRows line (some g) i.rows = ([], some (g.push (i.block line))) := by
  rw [WrittenItem.rows, readRows_cons, readLine_dash hg i.indentOf_first i.isListItem_first,
    readRows_inside g i.inside]
  rfl

/-- Items are read one below the other. -/
theorem readRows_items {g : OpenGroup} (hg : g.Takes dash) (line : Nat)
    (is : List (WrittenItem dash)) :
    readRows line (some g) (is.flatMap WrittenItem.rows) =
      ([], some ((WrittenItem.blocks line is).foldl push g)) := by
  induction is generalizing g line with
  | nil => rfl
  | cons i is ih =>
    rw [List.flatMap_cons, readRows_append, readRows_item hg, ih (takes_push g (i.block line))]
    rfl

/-! ## Written lists -/

/-- A key for rules with its items below, as it is written. -/
structure WrittenList where
  /-- The line with the key. -/
  key : List Char
  /-- The least indentation of items. -/
  indent : Nat
  rulesKey?_key : rulesKey? key = some (.block indent)
  /-- The lines between the key and the first dash. -/
  gap : List MarkedLine
  /-- A line in between is content of a block scalar, blank or a comment. -/
  quiet : ∀ row ∈ gap, row.2 = true ∨ isBlankOrComment row.1 = true
  /-- The column of the dashes. -/
  dash : Nat
  indent_le_dash : indent ≤ dash
  items : List (WrittenItem dash)
  items_ne_nil : items ≠ []

namespace WrittenList

/-- The lines of a list. -/
def rows (l : WrittenList) : List MarkedLine :=
  (l.key, false) :: (l.gap ++ l.items.flatMap WrittenItem.rows)

/-- The group of a list with its key at number `line`. -/
def group (l : WrittenList) (line : Nat) : RuleGroup where
  keyLine := line
  blocks := WrittenItem.blocks (line + 1 + l.gap.length) l.items

/-- A list ends in front of these lines: there are none, or the first has text, and is indented
less than the dashes, or as they are without being an item. -/
def EndsBefore (l : WrittenList) : List MarkedLine → Prop
  | [] => True
  | (s, marked) :: _ => marked = false ∧ isBlankOrComment s = false ∧
    (indentOf s < l.dash ∨ indentOf s = l.dash ∧ isListItem (unindented s) = false)

/-- The lines in front of a key leave no group open that goes on with its line. -/
def StartsBehind (l : WrittenList) (front : List MarkedLine) : Prop :=
  ∀ g ∈ (readRows 1 none front).2, g.read? (1 + front.length) l.key = none

variable (l : WrittenList) (line : Nat)

/-- The lines between a key and its first item leave its group as it is. -/
theorem readRows_gap {gap : List MarkedLine}
    (h : ∀ row ∈ gap, row.2 = true ∨ isBlankOrComment row.1 = true) (keyLine indent : Nat) :
    readRows line (some (.start keyLine indent)) gap = ([], some (.start keyLine indent)) := by
  induction gap generalizing line with
  | nil => rfl
  | cons row gap ih =>
    obtain ⟨s, marked⟩ := row
    obtain ⟨hrow, hgap⟩ := List.forall_mem_cons.mp h
    have hread : readLine line (some (.start keyLine indent)) s marked =
        ([], some (.start keyLine indent)) := by
      cases marked with
      | true => rfl
      | false => exact readLine_of_isBlankOrComment (by simpa using hrow) _ _
    rw [readRows_cons, hread, ih _ hgap]
    rfl

/-- **A list is read as it is written.** -/
theorem readRows_list : readRows line none l.rows = ([], some
    ((WrittenItem.blocks (line + 1 + l.gap.length) l.items).foldl push (.start line l.indent))) := by
  have hkey : readLine line none l.key false = ([], some (.start line l.indent)) := by
    simp [readLine, openAt, l.rulesKey?_key]
  have htakes : (OpenGroup.start line l.indent).Takes l.dash := l.indent_le_dash
  rw [rows, readRows_cons, hkey, readRows_append, readRows_gap _ l.quiet, readRows_items htakes]
  rfl

/-- Behind items the column of the dashes is settled. -/
theorem exists_current (g : OpenGroup) {is : List (WrittenItem dash)} (hne : is ≠ []) :
    ∃ b, ((WrittenItem.blocks line is).foldl push g).current = some b ∧ b.dash = dash := by
  induction is generalizing g line with
  | nil => exact absurd rfl hne
  | cons i is ih =>
    cases is with
    | nil => exact ⟨i.block line, rfl, rfl⟩
    | cons next is => exact ih _ (g.push (i.block line)) (List.cons_ne_nil next is)

/-- The lines behind a list are read as if no group were open. -/
theorem groupsFrom_behind {g : OpenGroup} {b : RuleBlock} (hb : g.current = some b)
    (hdash : b.dash = l.dash) {rest : List MarkedLine} (hrest : l.EndsBefore rest) :
    groupsFrom line (some g) rest = g.close :: groupsFrom line none rest := by
  cases rest with
  | nil => rfl
  | cons row rest =>
    obtain ⟨s, marked⟩ := row
    obtain ⟨rfl, htext, hends⟩ := hrest
    refine groupsFrom_of_read?_eq_none htext ?_ rest
    have hnot : ¬(indentOf s = b.dash ∧ isListItem (unindented s) = true) := by
      rintro ⟨hsame, hitem⟩
      rcases hends with hless | ⟨-, hother⟩
      · omega
      · rw [hitem] at hother
        cases hother
    rw [read?_of_some hb, if_neg (by omega), if_neg hnot]

/-- A list and the lines behind it. -/
theorem groupsFrom_list {rest : List MarkedLine} (hrest : l.EndsBefore rest) :
    groupsFrom line none (l.rows ++ rest) =
      l.group line :: groupsFrom (line + l.rows.length) none rest := by
  obtain ⟨b, hb, hdash⟩ := exists_current (line + 1 + l.gap.length)
    (.start line l.indent) l.items_ne_nil
  rw [groupsFrom_append, readRows_list, groupsFrom_behind l _ hb hdash hrest, close_foldl_push]
  rfl

end WrittenList

/-! ## Lists in a file -/

/-- Numbers that are greater by so many. -/
def shift (n : Nat) : Nat →o Nat where
  toFun line := line + n
  monotone' _ _ h := Nat.add_le_add_right h n

/-- A key behind some lines finishes the group that is open in front of it. -/
theorem groupsFrom_startsBehind {l : WrittenList} {front : List MarkedLine}
    (h : l.StartsBehind front) (rows : List MarkedLine) :
    groupsFrom 1 none (front ++ (l.key, false) :: rows) =
      groupsFrom 1 none front ++ groupsFrom (1 + front.length) none ((l.key, false) :: rows) := by
  have htext : isBlankOrComment l.key = false := isBlankOrComment_of_rulesKey? l.rulesKey?_key
  rw [groupsFrom_append, groupsFrom_eq front]
  cases hopen : (readRows 1 none front).2 with
  | none => simp
  | some g =>
    have hends := groupsFrom_of_read?_eq_none htext (h g hopen) rows
    simp [hends]

/-- **The items of a list are found as they are written.** A list anywhere outside of another list
has one group, with one item for each dash, and each item reaches from its dash to the last of its
lines with content. The lines behind the list are read as if the file started there. -/
theorem groupsOf_list (l : WrittenList) {front rest : List MarkedLine}
    (hfront : l.StartsBehind front) (hrest : l.EndsBefore rest) :
    groupsOf (front ++ (l.rows ++ rest)) = groupsOf front ++ l.group (1 + front.length) ::
      (groupsOf rest).map (RuleGroup.renumber (shift (front.length + l.rows.length))) := by
  have hrows : l.rows ++ rest =
      (l.key, false) :: (l.gap ++ l.items.flatMap WrittenItem.rows ++ rest) := rfl
  have hlist := l.groupsFrom_list (1 + front.length) hrest
  have hshift : ∀ i < rest.length, shift (front.length + l.rows.length) (1 + i) =
      1 + front.length + l.rows.length + i := by
    intro i _
    show 1 + i + (front.length + l.rows.length) = 1 + front.length + l.rows.length + i
    omega
  have hbehind := groupsFrom_renumber none hshift
  rw [Option.map_none] at hbehind
  rw [groupsOf_eq, groupsOf_eq, groupsOf_eq, ← hbehind, ← hlist, hrows,
    groupsFrom_startsBehind hfront]

/-- A list with a nested key, a comment in the first column and a block scalar that holds a key for
rules. -/
def nestedList : WrittenList where
  key := "- rules: # two".toList
  indent := 2
  rulesKey?_key := by decide
  gap := [([], false), ("rules:".toList, true)]
  quiet := by decide
  dash := 3
  indent_le_dash := by decide
  items :=
    [{ first := "   - alert: |".toList
       more := [("rules:".toList, true), ("# x".toList, false), ([], false)]
       indentOf_first := by decide
       isListItem_first := by decide
       inside := by decide },
      { first := "   -".toList
        more := [([], false), ("    rules:".toList, false), ("     - x".toList, false)]
        indentOf_first := by decide
        isListItem_first := by decide
        inside := by decide }]
  items_ne_nil := by decide

/-- A list that is indented deeper than a key behind it. -/
def deeperList : List MarkedLine :=
  [("  rules:".toList, false), ("  - y".toList, false)]

/-- A key whose value stands on its line. -/
def flowKey : List MarkedLine :=
  [("   rules: []".toList, false)]

theorem groupsOf_nestedList : nestedList.StartsBehind deeperList ∧ nestedList.EndsBefore flowKey ∧
    groupsOf (deeperList ++ (nestedList.rows ++ flowKey)) =
      [⟨1, [.reaching 2 0 2]⟩, ⟨3, [.reaching 6 1 3, .reaching 10 3 3]⟩, ⟨14, []⟩] := by
  have hfront : nestedList.StartsBehind deeperList := by
    unfold WrittenList.StartsBehind
    decide
  have hrest : nestedList.EndsBefore flowKey :=
    ⟨rfl, by decide, .inr ⟨by decide, by decide⟩⟩
  refine ⟨hfront, hrest, ?_⟩
  rw [groupsOf_list nestedList hfront hrest]
  decide

end RuleDelta.RuleFile

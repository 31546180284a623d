import RuleDelta.Proofs.Yaml.ScannedMapping
import RuleDelta.Yaml.Node

/-!
# The document of a written mapping

The grammar takes the tokens of a written mapping one after another, and the nodes that it tells are
those of its entries.

* `Grammar.Yields` says which events come from a state, and `yields_entries` which from entries;
* `parse_symbols` are the events of a whole mapping;
* `Document.ofText_lines` is its document.
-/

namespace RuleDelta.Yaml

/-! ## Events of entries -/

/-- The event of a scalar. -/
def Scalar.event (x : Scalar) : Event :=
  .scalar .none x.text x.style.scalarStyle

/-- The events of a value. -/
def WrittenValue.events : WrittenValue → List Event
  | scalar x => [x.event]
  | list items => .sequenceStart .none :: items.map Scalar.event ++ [.sequenceEnd]

/-- The events of an entry. -/
def WrittenEntry.events (e : WrittenEntry) : List Event :=
  .scalar .none e.name .plain :: e.value.events

/-- Tokens by their symbols, wherever they are. -/
theorem exists_eq_cons {tokens : List Token} {symbol : Symbol} {symbols : List Symbol}
    (h : tokens.map Token.symbol = symbol :: symbols) :
    ∃ mark rest, tokens = ⟨symbol, mark⟩ :: rest ∧ rest.map Token.symbol = symbols := by
  obtain ⟨⟨_, mark⟩, rest, rfl, rfl, hrest⟩ := List.map_eq_cons_iff.mp h
  exact ⟨mark, rest, rfl, hrest⟩

/-! ## Steps of the grammar -/

/-- How many steps a goal may take before it takes a token. -/
def Goal.weight : Goal → Nat
  | .documents true => 5
  | .node _ _ => 2
  | _ => 1

namespace Grammar

/-- A bound for the number of steps from a state on. -/
def cost (g : Grammar) : Nat :=
  3 * g.tokens.length + (g.goals.map Goal.weight).sum

/-- With enough steps a run from the state has these events and no fault. -/
def Yields (stop : Error) (g : Grammar) (events : List Event) : Prop :=
  ∀ fuel, cost g < fuel →
    ∃ located, run stop fuel g = (located, none) ∧ located.map Located.event = events

section

variable {stop : Error} {g : Grammar} {goal : Goal} {goals : List Goal} {events : List Event}
  {handles : List Handle} {rest : List Token}

/-- The run ends when nothing is expected any more. -/
theorem yields_nil (h : g.goals = []) : Yields stop g [] := by
  intro fuel hfuel
  obtain ⟨fuel, rfl⟩ := Nat.exists_eq_succ_of_ne_zero (Nat.ne_of_gt (Nat.zero_lt_of_lt hfuel))
  exact ⟨[], by simp [run, h], rfl⟩

/-- A step in front of a run. -/
theorem Yields.of_step (event? : Option Located) (g' : Grammar) (hgoals : g.goals = goal :: goals)
    (hstep : { g with goals }.step stop goal = .ok (event?, g')) (hcost : cost g' < cost g)
    (h : Yields stop g' events) :
    Yields stop g (event?.toList.map Located.event ++ events) := by
  intro fuel hfuel
  obtain ⟨fuel, rfl⟩ := Nat.exists_eq_succ_of_ne_zero (Nat.ne_of_gt (Nat.zero_lt_of_lt hfuel))
  obtain ⟨located, hrun, hevents⟩ := h fuel (by omega)
  exact ⟨event?.toList ++ located, by simp [run, hgoals, hstep, hrun], by simp [hevents]⟩

theorem yields_scalar {text : List Char} {style : ScalarStyle} {mark : Mark}
    (block indentless : Bool) (h : Yields stop ⟨goals, rest, handles⟩ events) :
    Yields stop ⟨.node block indentless :: goals, ⟨.scalar text style, mark⟩ :: rest, handles⟩
      (.scalar .none text style :: events) :=
  .of_step (some ⟨.scalar .none text style, mark⟩) ⟨goals, rest, handles⟩ rfl rfl
    (by simp [cost, Goal.weight]; omega) h

/-- A node comes where none of its ends does. -/
theorem nodeUnless_eq (stop : Error) (t : Token) {ends : List Symbol}
    (h : ends.contains t.symbol = false) (block indentless : Bool) (next : Goal) :
    nodeUnless stop ⟨goals, t :: rest, handles⟩ ends block indentless next =
      .ok (none, ⟨.node block indentless :: next :: goals, t :: rest, handles⟩) := by
  show (if ends.contains t.symbol then Except.ok _ else Except.ok _) = _
  rw [h]
  rfl

/-! ## Values -/

/-- Behind an entry another one starts, or the mapping ends. -/
def EndsEntry (rest : List Token) : Prop :=
  rest.head?.any (fun t => t.symbol == .key || t.symbol == .blockEnd) = true

theorem yields_noEntry (hrest : EndsEntry rest) (h : Yields stop ⟨goals, rest, handles⟩ events) :
    Yields stop ⟨.indentlessEntries :: goals, rest, handles⟩ (.sequenceEnd :: events) := by
  cases rest with
  | nil => cases hrest
  | cons t rest =>
    refine .of_step (some ⟨.sequenceEnd, t.mark⟩) ⟨goals, t :: rest, handles⟩ rfl ?_
      (by simp [cost, Goal.weight]) h
    obtain ⟨symbol, mark⟩ := t
    simp only [EndsEntry, List.head?_cons, Option.any_some, Bool.or_eq_true, beq_iff_eq] at hrest
    rcases hrest with hsymbol | hsymbol <;> cases hsymbol <;> rfl

/-- The induction is on the items. -/
theorem yields_items (items : List Scalar) {front : List Token}
    (hfront : front.map Token.symbol = items.flatMap fun x => [.blockEntry, x.symbol])
    (hrest : EndsEntry rest) (h : Yields stop ⟨goals, rest, handles⟩ events) :
    Yields stop ⟨.indentlessEntries :: goals, front ++ rest, handles⟩
      (items.map Scalar.event ++ .sequenceEnd :: events) := by
  induction items generalizing front with
  | nil =>
    rw [List.flatMap_nil, List.map_eq_nil_iff] at hfront
    subst hfront
    exact yields_noEntry hrest h
  | cons x items ih =>
    obtain ⟨mark, back, rfl, hback⟩ := exists_eq_cons hfront
    obtain ⟨mark', back, rfl, hitems⟩ := exists_eq_cons hback
    refine .of_step none
      ⟨.node true false :: .indentlessEntries :: goals, ⟨x.symbol, mark'⟩ :: (back ++ rest),
        handles⟩ rfl rfl (by simp [cost, Goal.weight]; omega) ?_
    exact yields_scalar true false (ih hitems)

theorem yields_value (v : WrittenValue) {front : List Token}
    (hfront : front.map Token.symbol = v.symbols) (hrest : EndsEntry rest)
    (h : Yields stop ⟨goals, rest, handles⟩ events) :
    Yields stop ⟨.node true true :: goals, front ++ rest, handles⟩ (v.events ++ events) := by
  cases v with
  | scalar x =>
    obtain ⟨mark, back, rfl, hback⟩ := exists_eq_cons hfront
    rw [List.map_eq_nil_iff.mp hback]
    exact yields_scalar true true h
  | list items =>
    cases items with
    | nil =>
      obtain ⟨mark, back, rfl, hback⟩ := exists_eq_cons hfront
      obtain ⟨mark', back, rfl, hnone⟩ := exists_eq_cons hback
      rw [List.map_eq_nil_iff.mp hnone]
      refine .of_step (some ⟨.sequenceStart .none, mark⟩)
        ⟨.flowEntries true :: goals, ⟨.flowSequenceEnd, mark'⟩ :: rest, handles⟩ rfl rfl
        (by simp [cost, Goal.weight]; omega) ?_
      exact .of_step (some ⟨.sequenceEnd, mark'⟩) ⟨goals, rest, handles⟩ rfl rfl
        (by simp [cost, Goal.weight]; omega) h
    | cons x items =>
      have hitems := yields_items (x :: items) hfront hrest h
      obtain ⟨mark, back, rfl, -⟩ := exists_eq_cons hfront
      have hvalue : Yields stop
          ⟨.node true true :: goals, ⟨.blockEntry, mark⟩ :: back ++ rest, handles⟩
          (.sequenceStart .none :: ((x :: items).map Scalar.event ++ .sequenceEnd :: events)) :=
        .of_step (some ⟨.sequenceStart .none, mark⟩)
          ⟨.indentlessEntries :: goals, ⟨.blockEntry, mark⟩ :: back ++ rest, handles⟩ rfl rfl
          (by simp [cost, Goal.weight]) hitems
      simpa [WrittenValue.events] using hvalue

/-! ## Entries -/

/-- A value is not left out. -/
theorem exists_symbols_eq_cons (v : WrittenValue) :
    ∃ symbol symbols, v.symbols = symbol :: symbols ∧
      [Symbol.key, .value, .blockEnd].contains symbol = false := by
  cases v with
  | scalar x => exact ⟨_, _, rfl, rfl⟩
  | list items =>
    cases items with
    | nil => exact ⟨_, _, rfl, rfl⟩
    | cons x items => exact ⟨_, _, rfl, rfl⟩

/-- **An entry has the events of its key and its value.** -/
theorem yields_entry (e : WrittenEntry) {front : List Token}
    (hfront : front.map Token.symbol = e.symbols) (hrest : EndsEntry rest)
    (h : Yields stop ⟨.blockKey :: goals, rest, handles⟩ events) :
    Yields stop ⟨.blockKey :: goals, front ++ rest, handles⟩ (e.events ++ events) := by
  obtain ⟨mark, keyed, rfl, hkeyed⟩ := exists_eq_cons hfront
  obtain ⟨mark', named, rfl, hnamed⟩ := exists_eq_cons hkeyed
  obtain ⟨mark'', back, rfl, hback⟩ := exists_eq_cons hnamed
  have hvalue := yields_value e.value hback hrest h
  refine .of_step none
    ⟨.node true true :: .blockValue :: goals,
      ⟨.scalar e.name .plain, mark'⟩ :: ⟨.value, mark''⟩ :: (back ++ rest), handles⟩ rfl rfl
    (by simp [cost, Goal.weight]; omega) (yields_scalar true true ?_)
  obtain ⟨symbol, symbols, hsymbols, hends⟩ := exists_symbols_eq_cons e.value
  obtain ⟨mark₁, values, rfl, -⟩ := exists_eq_cons (hback.trans hsymbols)
  exact .of_step none
    ⟨.node true true :: .blockKey :: goals, ⟨symbol, mark₁⟩ :: values ++ rest, handles⟩ rfl
    (nodeUnless_eq stop ⟨symbol, mark₁⟩ hends true true .blockKey)
    (by simp [cost, Goal.weight]; omega) hvalue

theorem endsEntry_append {entries : List WrittenEntry} {front : List Token}
    (hfront : front.map Token.symbol = entries.flatMap WrittenEntry.symbols)
    (hrest : EndsEntry rest) : EndsEntry (front ++ rest) := by
  cases entries with
  | nil =>
    rw [List.flatMap_nil, List.map_eq_nil_iff] at hfront
    subst hfront
    exact hrest
  | cons e entries =>
    obtain ⟨mark, back, rfl, -⟩ := exists_eq_cons hfront
    rfl

/-- The induction is on the entries. -/
theorem yields_entries (entries : List WrittenEntry) {front : List Token}
    (hfront : front.map Token.symbol = entries.flatMap WrittenEntry.symbols)
    (hrest : EndsEntry rest) (h : Yields stop ⟨.blockKey :: goals, rest, handles⟩ events) :
    Yields stop ⟨.blockKey :: goals, front ++ rest, handles⟩
      (entries.flatMap WrittenEntry.events ++ events) := by
  induction entries generalizing front with
  | nil =>
    rw [List.flatMap_nil, List.map_eq_nil_iff] at hfront
    subst hfront
    exact h
  | cons e entries ih =>
    rw [List.flatMap_cons] at hfront
    obtain ⟨first, others, rfl, hfirst, hothers⟩ := List.map_eq_append_iff.mp hfront
    rw [List.append_assoc, List.flatMap_cons, List.append_assoc]
    exact yields_entry e hfirst (endsEntry_append hothers hrest) (ih hothers)

/-! ## The mapping -/

/-- The signs behind the entries end the mapping and its document. -/
theorem yields_end (mark mark' : Mark) :
    Yields stop
      ⟨[.blockKey, .documentEnd, .documents false], [⟨.blockEnd, mark⟩, ⟨.streamEnd, mark'⟩],
        handles⟩
      [.mappingEnd, .documentEnd] := by
  refine .of_step (some ⟨.mappingEnd, mark⟩)
    ⟨[.documentEnd, .documents false], [⟨.streamEnd, mark'⟩], handles⟩ rfl rfl
    (by simp [cost, Goal.weight]) ?_
  refine .of_step (some ⟨.documentEnd, mark'⟩) ⟨[.documents false], [⟨.streamEnd, mark'⟩], []⟩
    rfl rfl (by simp [cost, Goal.weight]) ?_
  exact .of_step none ⟨[], [], []⟩ rfl rfl (by simp [cost, Goal.weight]) (yields_nil rfl)

end

end Grammar

/-- **The events of a written mapping** are those of its entries, between the starts and the ends of
the mapping and its document. -/
theorem parse_symbols (entries : List WrittenEntry) {tokens : List Token}
    (h : tokens.map Token.symbol = .streamStart :: .blockMappingStart ::
      (entries.flatMap WrittenEntry.symbols ++ [.blockEnd, .streamEnd])) :
    ∃ located, parse (tokens, none) = (located, none) ∧
      located.map Located.event = .documentStart :: .mappingStart .none ::
        (entries.flatMap WrittenEntry.events ++ [.mappingEnd, .documentEnd]) := by
  obtain ⟨mark, opened, rfl, hopened⟩ := exists_eq_cons h
  obtain ⟨mark', mapped, rfl, hmapped⟩ := exists_eq_cons hopened
  obtain ⟨front, closed, rfl, hfront, hclosed⟩ := List.map_eq_append_iff.mp hmapped
  obtain ⟨mark₁, ended, rfl, hended⟩ := exists_eq_cons hclosed
  obtain ⟨mark₂, nothing, rfl, hnothing⟩ := exists_eq_cons hended
  rw [List.map_eq_nil_iff.mp hnothing]
  have hends : Grammar.EndsEntry [⟨.blockEnd, mark₁⟩, ⟨.streamEnd, mark₂⟩] := rfl
  have hentries : Grammar.Yields ⟨.missingValue, none⟩
      ⟨[.blockKey, .documentEnd, .documents false],
        front ++ [⟨.blockEnd, mark₁⟩, ⟨.streamEnd, mark₂⟩], defaultHandles⟩
      (entries.flatMap WrittenEntry.events ++ [.mappingEnd, .documentEnd]) :=
    Grammar.yields_entries entries hfront hends (Grammar.yields_end mark₁ mark₂)
  have hmapping : Grammar.Yields ⟨.missingValue, none⟩
      ⟨[.node true false, .documentEnd, .documents false],
        ⟨.blockMappingStart, mark'⟩ :: (front ++ [⟨.blockEnd, mark₁⟩, ⟨.streamEnd, mark₂⟩]),
        defaultHandles⟩
      (.mappingStart .none ::
        (entries.flatMap WrittenEntry.events ++ [.mappingEnd, .documentEnd])) :=
    .of_step (some ⟨.mappingStart .none, mark'⟩)
      ⟨[.blockKey, .documentEnd, .documents false],
        front ++ [⟨.blockEnd, mark₁⟩, ⟨.streamEnd, mark₂⟩], defaultHandles⟩ rfl rfl
      (by
        simp only [Grammar.cost, Goal.weight, List.length_cons, List.map_cons, List.sum_cons]
        omega)
      hentries
  have hdocument : Grammar.Yields ⟨.missingValue, none⟩
      ⟨[.documents true],
        ⟨.blockMappingStart, mark'⟩ :: (front ++ [⟨.blockEnd, mark₁⟩, ⟨.streamEnd, mark₂⟩]), []⟩
      (.documentStart :: .mappingStart .none ::
        (entries.flatMap WrittenEntry.events ++ [.mappingEnd, .documentEnd])) :=
    .of_step (some ⟨.documentStart, mark'⟩)
      ⟨[.node true false, .documentEnd, .documents false],
        ⟨.blockMappingStart, mark'⟩ :: (front ++ [⟨.blockEnd, mark₁⟩, ⟨.streamEnd, mark₂⟩]),
        defaultHandles⟩ rfl rfl (by simp [Grammar.cost, Goal.weight]) hmapping
  refine hdocument _ ?_
  simp [Grammar.cost, Goal.weight]
  omega

/-! ## Nodes of entries -/

/-- A node is a text as it was written. -/
def Scalar.IsNode (x : Scalar) (node : Node) : Prop :=
  ∃ mark, node = .scalar mark none x.text x.style.scalarStyle

/-- A node is a value as it was written. -/
def WrittenValue.IsNode : WrittenValue → Node → Prop
  | scalar x, node => x.IsNode node
  | list items, node => ∃ mark nodes, node = .sequence mark none nodes ∧
      List.Forall₂ Scalar.IsNode items nodes

/-- A key and a value are an entry as it was written. -/
def WrittenEntry.IsNode (e : WrittenEntry) (pair : Node × Node) : Prop :=
  (∃ mark, pair.1 = .scalar mark none e.name .plain) ∧ e.value.IsNode pair.2

/-- The entries of a mapping are found again in its nodes. -/
theorem pairUp_flatMap (pairs : List (Node × Node)) :
    pairUp (pairs.flatMap fun p => [p.1, p.2]) = pairs := by
  induction pairs with
  | nil => rfl
  | cons p pairs ih =>
    rw [List.flatMap_cons, List.cons_append, List.cons_append, List.nil_append, pairUp, ih]

/-! ## The document -/

/-- A collection with further nodes in it. -/
def OpenCollection.holding (c : OpenCollection) (nodes : List Node) : OpenCollection :=
  { c with children := nodes.reverse ++ c.children }

theorem OpenCollection.holding_holding (c : OpenCollection) (nodes nodes' : List Node) :
    (c.holding nodes).holding nodes' = c.holding (nodes ++ nodes') := by
  simp [holding]

/-- A draft without names, inside of a collection. -/
def Draft.inside (c : OpenCollection) (opened : List OpenCollection) (size : Nat) : Draft :=
  ⟨c :: opened, .missing, [], [], [], size⟩

/-- Events have a name for no node, so they are told apart from their marks. -/
theorem exists_located_eq_cons {located : List Located} {event : Event} {events : List Event}
    (h : located.map Located.event = event :: events) :
    ∃ mark rest, located = ⟨event, mark⟩ :: rest ∧ rest.map Located.event = events := by
  obtain ⟨⟨_, mark⟩, rest, rfl, rfl, hrest⟩ := List.map_eq_cons_iff.mp h
  exact ⟨mark, rest, rfl, hrest⟩

namespace Document

section

variable {c : OpenCollection} {opened : List OpenCollection} {size : Nat}
  {front rest : List Located} {error? : Option Error}

theorem fromDraft_cons {draft draft' : Draft} {e : Located} (hadd : draft.add e = .ok draft')
    (hgoes : e.event ≠ .documentEnd) :
    fromDraft error? (some draft) (e :: rest) = fromDraft error? (some draft') rest := by
  rw [fromDraft, Option.getD_some, hadd]
  obtain ⟨event, mark⟩ := e
  cases event with
  | documentEnd => exact absurd rfl hgoes
  | _ => rfl

/-- The events put these nodes into the innermost collection. -/
def Holds (front : List Located) (nodes : List Node) : Prop :=
  ∀ (c : OpenCollection) (opened : List OpenCollection) (size : Nat) (rest : List Located),
    ∃ size', fromDraft none (some (.inside c opened size)) (front ++ rest) =
      fromDraft none (some (.inside (c.holding nodes) opened size')) rest

theorem Holds.append {front back : List Located} {nodes nodes' : List Node}
    (h : Holds front nodes) (h' : Holds back nodes') : Holds (front ++ back) (nodes ++ nodes') := by
  intro c opened size rest
  obtain ⟨size₁, hfront⟩ := h c opened size (back ++ rest)
  obtain ⟨size₂, hback⟩ := h' (c.holding nodes) opened size₁ rest
  exact ⟨size₂, by rw [List.append_assoc, hfront, hback, c.holding_holding]⟩

theorem holds_nil : Holds [] [] :=
  fun _ _ size _ => ⟨size, rfl⟩

theorem holds_scalar (text : List Char) (style : ScalarStyle) (mark : Mark) :
    Holds [⟨.scalar .none text style, mark⟩] [.scalar mark none text style] :=
  fun _ _ size _ => ⟨size + 1, fromDraft_cons rfl nofun⟩

theorem holds_scalars (items : List Scalar) {front : List Located}
    (hfront : front.map Located.event = items.map Scalar.event) :
    ∃ nodes, List.Forall₂ Scalar.IsNode items nodes ∧ Holds front nodes := by
  induction items generalizing front with
  | nil =>
    rw [List.map_eq_nil_iff.mp hfront]
    exact ⟨[], .nil, holds_nil⟩
  | cons x items ih =>
    obtain ⟨mark, back, rfl, hback⟩ := exists_located_eq_cons hfront
    obtain ⟨nodes, hnodes, hholds⟩ := ih hback
    exact ⟨_ :: nodes, .cons ⟨mark, rfl⟩ hnodes, (holds_scalar _ _ mark).append hholds⟩

/-- A sequence is put into the collection around it when it ends. -/
theorem Holds.sequence {nodes : List Node} (h : Holds front nodes) (mark mark' : Mark) :
    Holds (⟨.sequenceStart .none, mark⟩ :: front ++ [⟨.sequenceEnd, mark'⟩])
      [.sequence mark none nodes] := by
  intro c opened size rest
  obtain ⟨size', hfront⟩ := h ⟨.sequence, mark, none, none, []⟩ (c :: opened) (size + 1)
    (⟨.sequenceEnd, mark'⟩ :: rest)
  refine ⟨size' + 1, ?_⟩
  have hstart : fromDraft none (some (.inside c opened size))
      (⟨.sequenceStart .none, mark⟩ :: (front ++ ⟨.sequenceEnd, mark'⟩ :: rest)) =
      fromDraft none
        (some (.inside ⟨.sequence, mark, none, none, []⟩ (c :: opened) (size + 1)))
        (front ++ ⟨.sequenceEnd, mark'⟩ :: rest) := fromDraft_cons rfl nofun
  have hend : (Draft.inside (OpenCollection.holding ⟨.sequence, mark, none, none, []⟩ nodes)
      (c :: opened) size').add ⟨.sequenceEnd, mark'⟩ =
      .ok (.inside (c.holding [.sequence mark none nodes]) opened (size' + 1)) := by
    simp [Draft.add, Draft.inside, Draft.close, Draft.place, OpenCollection.holding,
      OpenCollection.node]
  rw [List.cons_append, List.cons_append, List.append_assoc, List.singleton_append, hstart, hfront]
  exact fromDraft_cons hend nofun

theorem holds_value (v : WrittenValue) (hfront : front.map Located.event = v.events) :
    ∃ node, v.IsNode node ∧ Holds front [node] := by
  cases v with
  | scalar x =>
    obtain ⟨mark, back, rfl, hback⟩ := exists_located_eq_cons hfront
    rw [List.map_eq_nil_iff.mp hback]
    exact ⟨_, ⟨mark, rfl⟩, holds_scalar _ _ mark⟩
  | list items =>
    obtain ⟨mark, back, rfl, hback⟩ := exists_located_eq_cons hfront
    obtain ⟨inside, ended, rfl, hinside, hended⟩ := List.map_eq_append_iff.mp hback
    obtain ⟨mark', nothing, rfl, hnothing⟩ := exists_located_eq_cons hended
    rw [List.map_eq_nil_iff.mp hnothing]
    obtain ⟨nodes, hnodes, hholds⟩ := holds_scalars items hinside
    exact ⟨_, ⟨mark, nodes, rfl, hnodes⟩, hholds.sequence mark mark'⟩

theorem holds_entries (entries : List WrittenEntry)
    (hfront : front.map Located.event = entries.flatMap WrittenEntry.events) :
    ∃ pairs, List.Forall₂ WrittenEntry.IsNode entries pairs ∧
      Holds front (pairs.flatMap fun p => [p.1, p.2]) := by
  induction entries generalizing front with
  | nil =>
    rw [List.map_eq_nil_iff.mp hfront]
    exact ⟨[], .nil, holds_nil⟩
  | cons e entries ih =>
    obtain ⟨first, others, rfl, hfirst, hothers⟩ := List.map_eq_append_iff.mp hfront
    obtain ⟨mark, back, rfl, hback⟩ := exists_located_eq_cons hfirst
    obtain ⟨value, hvalue, hholds⟩ := holds_value e.value hback
    obtain ⟨pairs, hpairs, hholds'⟩ := ih hothers
    exact ⟨(.scalar mark none e.name .plain, value) :: pairs, .cons ⟨⟨mark, rfl⟩, hvalue⟩ hpairs,
      ((holds_scalar _ _ mark).append hholds).append hholds'⟩

/-- **The document of the events of a mapping** has one node, which holds the entries. -/
theorem ofEvents_entries (entries : List WrittenEntry) {located : List Located}
    (h : located.map Located.event = .documentStart :: .mappingStart .none ::
      (entries.flatMap WrittenEntry.events ++ [.mappingEnd, .documentEnd])) :
    ∃ mark pairs size, List.Forall₂ WrittenEntry.IsNode entries pairs ∧
      ofEvents (located, none) = [⟨.mapping mark none pairs, [], size, none⟩] := by
  obtain ⟨mark, started, rfl, hstarted⟩ := exists_located_eq_cons h
  obtain ⟨mark', opened, rfl, hopened⟩ := exists_located_eq_cons hstarted
  obtain ⟨front, closed, rfl, hfront, hclosed⟩ := List.map_eq_append_iff.mp hopened
  obtain ⟨mark₁, ended, rfl, hended⟩ := exists_located_eq_cons hclosed
  obtain ⟨mark₂, nothing, rfl, hnothing⟩ := exists_located_eq_cons hended
  rw [List.map_eq_nil_iff.mp hnothing]
  obtain ⟨pairs, hpairs, hholds⟩ := holds_entries entries hfront
  obtain ⟨size, hinside⟩ := hholds ⟨.mapping, mark', none, none, []⟩ [] 1
    [⟨.mappingEnd, mark₁⟩, ⟨.documentEnd, mark₂⟩]
  refine ⟨mark', pairs, size + 1, hpairs, ?_⟩
  have hstart : fromDraft none none (⟨.documentStart, mark⟩ :: ⟨.mappingStart .none, mark'⟩ ::
      (front ++ [⟨.mappingEnd, mark₁⟩, ⟨.documentEnd, mark₂⟩])) =
      fromDraft none (some (.inside ⟨.mapping, mark', none, none, []⟩ [] 1))
        (front ++ [⟨.mappingEnd, mark₁⟩, ⟨.documentEnd, mark₂⟩]) := rfl
  have hend : fromDraft none
      (some (.inside (OpenCollection.holding ⟨.mapping, mark', none, none, []⟩
        (pairs.flatMap fun p => [p.1, p.2])) [] size))
      [⟨.mappingEnd, mark₁⟩, ⟨.documentEnd, mark₂⟩] =
      [⟨.mapping mark' none pairs, [], size + 1, none⟩] := by
    simp [fromDraft, Draft.add, Draft.close, Draft.place, Draft.inside, Draft.finish,
      OpenCollection.holding, OpenCollection.node, pairUp_flatMap]
  rw [ofEvents, hstart, hinside, hend]

end

/-- **A written mapping is read as a document** that has its entries, and nothing else. -/
theorem ofText_lines (e : WrittenEntry) (entries : List WrittenEntry) :
    ∃ mark pairs size, List.Forall₂ WrittenEntry.IsNode (e :: entries) pairs ∧
      ofText ((e :: entries).flatMap WrittenEntry.lines) =
        [⟨.mapping mark none pairs, [], size, none⟩] := by
  obtain ⟨tokens, hscan, hsymbols⟩ := scan_lines e entries
  obtain ⟨located, hparse, hevents⟩ := parse_symbols (e :: entries) hsymbols
  rw [ofText, hscan, hparse]
  exact ofEvents_entries (e :: entries) hevents

end Document

end RuleDelta.Yaml

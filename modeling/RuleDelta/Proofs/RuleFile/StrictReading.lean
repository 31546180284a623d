import Mathlib
import RuleDelta.Proofs.RuleFile.RulesKey

/-!
# What a strict reading keeps

A strict reading gives the items of all keys for rules, none of them lost and in the order of the
text, or it refuses the file. It refuses a file that is YAML exactly when the scan of its lines
disagrees with the reader about the keys or their items.

* `BodyGives` are the kind and the name of a rule in terms of its body;
* `Mismatch` is such a disagreement, and `locate_eq_none_iff` says that nothing else is one;
* `StrictReading` says what the entries are and when a file is refused, and `strictReading` proves
  it for any reader of YAML.
-/

namespace RuleDelta

/-! ## Kinds and names -/

namespace Yaml.Value

/-- The value stands in a mapping under a key without a tag, in the first entry with that key. -/
def HasField (body : Value) (key : String) (v : Value) : Prop :=
  ∃ front back, body = .mapping (front ++ (.string key, v) :: back) ∧
    ∀ e ∈ front, e.1 ≠ .string key

/-- The value is no mapping with an entry for the key. -/
def LacksField (body : Value) (key : String) : Prop :=
  ∀ entries, body = .mapping entries → ∀ e ∈ entries, e.1 ≠ .string key

/-- The name that a value gives: its text, or none if it is no text. -/
inductive Names : Value → String → Prop
  | text {v : Value} {s : String} (here : v.IsText s) : Names v s
  | noText {v : Value} (none : ∀ s, ¬v.IsText s) : Names v ""

theorem names_getD_text? (v : Value) : v.Names (v.text?.getD "") := by
  cases htext : v.text? with
  | some s => exact .text (text?_eq_some_iff.mp htext)
  | none =>
    refine .noText fun s hs => ?_
    rw [text?_eq_some_iff.mpr hs] at htext
    cases htext

theorem isKey_iff {key : String} {v : Value} :
    (match v with
      | string s => s == key
      | _ => false) = true ↔ v = .string key := by
  cases v <;> simp

theorem hasField_of_field? {body v : Value} {key : String} (h : body.field? key = some v) :
    body.HasField key v := by
  cases body with
  | mapping entries =>
    obtain ⟨⟨k, w⟩, hfind, rfl⟩ := Option.map_eq_some_iff.mp h
    obtain ⟨hkey, front, back, rfl, hfront⟩ := List.find?_eq_some_iff_append.mp hfind
    obtain rfl := isKey_iff.mp hkey
    refine ⟨front, back, rfl, ?_⟩
    rintro ⟨k, w'⟩ he rfl
    simpa using hfront _ he
  | _ => cases h

theorem lacksField_of_field? {body : Value} {key : String} (h : body.field? key = none) :
    body.LacksField key := by
  rintro entries rfl e he heq
  have hnot := List.find?_eq_none.mp (Option.map_eq_none_iff.mp h) e he
  exact hnot (isKey_iff.mpr heq)

end Yaml.Value

/-- The kind and the name that a body gives its rule. An alert counts before a record. -/
inductive BodyGives (body : Yaml.Value) : RuleKind → String → Prop
  | alerting {v : Yaml.Value} {name : String} (alert : body.HasField "alert" v)
      (named : v.Names name) : BodyGives body .alerting name
  | recording {v : Yaml.Value} {name : String} (noAlert : body.LacksField "alert")
      (record : body.HasField "record" v) (named : v.Names name) : BodyGives body .recording name
  | invalid (noAlert : body.LacksField "alert") (noRecord : body.LacksField "record") :
      BodyGives body .invalid ""

/-- The kind and the name of a rule are those that its body gives it. -/
def Rule.FitsBody (r : Rule) : Prop :=
  BodyGives r.body r.kind r.name

theorem Rule.fitsBody_ofBody (lines : LineRange) (body : Yaml.Value) :
    (Rule.ofBody lines body).FitsBody := by
  show BodyGives body (kindAndName body).1 (kindAndName body).2
  unfold kindAndName
  cases halert : body.field? "alert" with
  | some v => exact .alerting (Yaml.Value.hasField_of_field? halert) v.names_getD_text?
  | none =>
    have noAlert := Yaml.Value.lacksField_of_field? halert
    cases hrecord : body.field? "record" with
    | some v =>
      exact .recording noAlert (Yaml.Value.hasField_of_field? hrecord) v.names_getD_text?
    | none => exact .invalid noAlert (Yaml.Value.lacksField_of_field? hrecord)

namespace RuleFile

open Text

/-! ## Items and lines -/

/-- The rules have these bodies, in this order. -/
structure RulesOf (bodies : List Yaml.Value) (rules : List Rule) : Prop where
  bodies : rules.map Rule.body = bodies
  fit : ∀ r ∈ rules, r.FitsBody

theorem RulesOf.append {bodies bodies' : List Yaml.Value} {rules rules' : List Rule}
    (h : RulesOf bodies rules) (h' : RulesOf bodies' rules') :
    RulesOf (bodies ++ bodies') (rules ++ rules') where
  bodies := by rw [List.map_append, h.bodies, h'.bodies]
  fit := List.forall_mem_append.mpr ⟨h.fit, h'.fit⟩

theorem rulesOf_map_ofBody (lines : LineRange) (items : List Yaml.Value) :
    RulesOf items (items.map (Rule.ofBody lines)) := by
  constructor
  · rw [List.map_map]
    exact List.map_id items
  · intro r hr
    obtain ⟨body, -, rfl⟩ := List.mem_map.mp hr
    exact Rule.fitsBody_ofBody lines body

theorem rulesOf_zipWith {blocks : List RuleBlock} {items : List Yaml.Value}
    (h : blocks.length = items.length) :
    RulesOf items (List.zipWith (fun b body => Rule.ofBody b.lines body) blocks items) := by
  induction blocks generalizing items with
  | nil =>
    obtain rfl := List.length_eq_zero_iff.mp h.symm
    exact ⟨rfl, by simp⟩
  | cons b blocks ih =>
    cases items with
    | nil => cases h
    | cons body items =>
      exact (rulesOf_map_ofBody b.lines [body]).append (ih (Nat.succ.inj h))

theorem RuleGroup.rulesOf_rules? {g : RuleGroup} {items : List Yaml.Value} {rules : List Rule}
    (h : g.rules? items = some rules) : RulesOf items rules := by
  unfold RuleGroup.rules? at h
  split at h
  · rename_i hlength
    obtain rfl := Option.some.inj h
    exact rulesOf_zipWith hlength
  · split at h
    · obtain rfl := Option.some.inj h
      exact rulesOf_map_ofBody _ items
    · cases h

/-- **Items that are located are all there**, in the order of their keys. -/
theorem rulesOf_locate {gs : List RuleGroup} {lists : List (List Yaml.Value)} {rules : List Rule}
    (h : locate gs lists = some rules) : RulesOf lists.flatten rules := by
  induction gs generalizing lists rules with
  | nil =>
    cases lists with
    | nil =>
      obtain rfl := Option.some.inj h
      exact ⟨rfl, by simp⟩
    | cons => cases h
  | cons g gs ih =>
    cases lists with
    | nil => cases h
    | cons items lists =>
      simp only [locate, Option.bind_eq_bind, Option.bind_eq_some_iff, Option.pure_def,
        Option.some.injEq] at h
      obtain ⟨front, hfront, rest, hrest, rfl⟩ := h
      exact (g.rulesOf_rules? hfront).append (ih hrest)

/-- The scan found other keys than the reader: not as many, or one with items, but not with as many
as the reader has under it. -/
def Mismatch (gs : List RuleGroup) (lists : List (List Yaml.Value)) : Prop :=
  gs.length ≠ lists.length ∨ ∃ (i : Nat) (g : RuleGroup) (items : List Yaml.Value),
    gs[i]? = some g ∧ lists[i]? = some items ∧
      g.blocks.length ≠ 0 ∧ g.blocks.length ≠ items.length

theorem RuleGroup.rules?_eq_none_iff {g : RuleGroup} {items : List Yaml.Value} :
    g.rules? items = none ↔ g.blocks.length ≠ 0 ∧ g.blocks.length ≠ items.length := by
  unfold RuleGroup.rules?
  by_cases hlength : g.blocks.length = items.length
  · simp [hlength]
  · by_cases hempty : g.blocks = []
    · rw [if_neg hlength]
      simp [hempty]
    · simp [hlength, hempty]

/-- A mismatch is one of the first keys or one of the others. -/
theorem mismatch_cons_iff {g : RuleGroup} {gs : List RuleGroup} {items : List Yaml.Value}
    {lists : List (List Yaml.Value)} : Mismatch (g :: gs) (items :: lists) ↔
      (g.blocks.length ≠ 0 ∧ g.blocks.length ≠ items.length) ∨ Mismatch gs lists := by
  constructor
  · rintro (hlength | ⟨i, g', items', hg, hitems, hdiffer⟩)
    · exact .inr (.inl (by simpa using hlength))
    · cases i with
      | zero =>
        obtain rfl := Option.some.inj hg
        obtain rfl := Option.some.inj hitems
        exact .inl hdiffer
      | succ i => exact .inr (.inr ⟨i, g', items', hg, hitems, hdiffer⟩)
  · rintro (hdiffer | hlength | ⟨i, g', items', hg, hitems, hdiffer⟩)
    · exact .inr ⟨0, g, items, rfl, rfl, hdiffer⟩
    · exact .inl (by simpa using hlength)
    · exact .inr ⟨i + 1, g', items', hg, hitems, hdiffer⟩

/-- **Items cannot be located exactly when the scan and the reader disagree.** -/
theorem locate_eq_none_iff {gs : List RuleGroup} {lists : List (List Yaml.Value)} :
    locate gs lists = none ↔ Mismatch gs lists := by
  induction gs generalizing lists with
  | nil =>
    cases lists with
    | nil => simp [locate, Mismatch]
    | cons items lists => simp [locate, Mismatch]
  | cons g gs ih =>
    cases lists with
    | nil => simp [locate, Mismatch]
    | cons items lists =>
      rw [mismatch_cons_iff, ← RuleGroup.rules?_eq_none_iff, ← ih, locate]
      cases g.rules? items <;> cases locate gs lists <;> simp

/-! ## Files -/

section

variable {reader : YamlReader} {sourcePath shownPath : String} {content : List UInt8}

/-- The documents of a content, if it is a text and the reader can read it. -/
def Loads (reader : YamlReader) (content : List UInt8) (text : List Char)
    (documents : List Yaml.Value) : Prop :=
  Utf8.decode content = .ok text ∧ reader.readAll text = .ok documents

theorem parseWith_strict_eq_ok_iff {entries : List Entry} :
    parseWith reader sourcePath shownPath content .strict = .ok entries ↔
      ∃ text documents rules, Loads reader content text documents ∧
        locate (scan text).groups (documents.flatMap ruleLists) = some rules ∧
        entries = rules.map (Entry.ofRule sourcePath shownPath) := by
  unfold parseWith rulesOfBytes Loads
  cases hdecode : Utf8.decode content with
  | error fault => simp
  | ok text =>
    unfold rulesOfText readRules
    cases hread : reader.readAll text with
    | error e => simp [hread]
    | ok documents =>
      cases hlocate : locate (scan text).groups (documents.flatMap ruleLists) with
      | none => simp [hread, hlocate]
      | some rules => simp [hread, hlocate, eq_comm]

theorem parseWith_strict_eq_unmatched_iff :
    parseWith reader sourcePath shownPath content .strict =
        .error (.refused ⟨shownPath, .unmatchedItems⟩) ↔
      ∃ text documents, Loads reader content text documents ∧
        locate (scan text).groups (documents.flatMap ruleLists) = none := by
  unfold parseWith rulesOfBytes Loads
  cases hdecode : Utf8.decode content with
  | error fault => simp
  | ok text =>
    unfold rulesOfText readRules
    cases hread : reader.readAll text with
    | error e => simp [hread]
    | ok documents =>
      cases hlocate : locate (scan text).groups (documents.flatMap ruleLists) with
      | none => simp [hread, hlocate]
      | some rules => simp [hread, hlocate]

/-- The bodies of the entries of a strict reading are the items of all keys for rules. -/
theorem exists_keys_of_strict {entries : List Entry}
    (h : parseWith reader sourcePath shownPath content .strict = .ok entries) :
    ∃ text documents keys, Loads reader content text documents ∧
      KeysOf (.sequence documents) keys ∧
      entries.map (fun e => e.rule.body) = keys.flatMap Prod.snd ∧
      ∀ e ∈ entries, e.rule.FitsBody := by
  obtain ⟨text, documents, rules, hloads, hlocate, rfl⟩ := parseWith_strict_eq_ok_iff.mp h
  obtain ⟨keys, hkeys, hlists⟩ := exists_keysOf (.sequence documents)
  have hrules := rulesOf_locate hlocate
  refine ⟨text, documents, keys, hloads, hkeys, ?_, ?_⟩
  · rw [ruleLists_sequence] at hlists
    calc (rules.map (Entry.ofRule sourcePath shownPath)).map (fun e => e.rule.body)
        = rules.map Rule.body := by rw [List.map_map]; rfl
      _ = (documents.flatMap ruleLists).flatten := hrules.bodies
      _ = keys.flatMap Prod.snd := by rw [← hlists, List.flatMap_def]
  · intro e he
    obtain ⟨r, hr, rfl⟩ := List.mem_map.mp he
    exact hrules.fit r hr

end

/-- What a strict reading of a content keeps, and when it refuses a content that is YAML. -/
structure StrictReading (reader : YamlReader) (sourcePath shownPath : String)
    (content : List UInt8) : Prop where
  /-- The bodies of the entries are the items of all keys for rules in the documents, in the order
  of the text, and kinds and names are those of the bodies. -/
  kept : ∀ entries, parseWith reader sourcePath shownPath content .strict = .ok entries →
    ∃ text documents keys, Loads reader content text documents ∧
      KeysOf (.sequence documents) keys ∧
      entries.map (fun e => e.rule.body) = keys.flatMap Prod.snd ∧ ∀ e ∈ entries, e.rule.FitsBody
  /-- A content is refused for its items where the scan and the documents disagree. -/
  unmatched_iff : parseWith reader sourcePath shownPath content .strict =
      .error (.refused ⟨shownPath, .unmatchedItems⟩) ↔
    ∃ text documents keys, Loads reader content text documents ∧
      KeysOf (.sequence documents) keys ∧ Mismatch (scan text).groups (keys.map Prod.snd)

/-- **A strict reading loses no rule and keeps their order**, and it refuses the items of a file
exactly where the scan and the documents disagree. -/
theorem strictReading (reader : YamlReader) (sourcePath shownPath : String)
    (content : List UInt8) : StrictReading reader sourcePath shownPath content where
  kept _ h := exists_keys_of_strict h
  unmatched_iff := by
    rw [parseWith_strict_eq_unmatched_iff]
    simp only [locate_eq_none_iff, ← ruleLists_sequence]
    constructor
    · rintro ⟨text, documents, hloads, hmismatch⟩
      obtain ⟨keys, hkeys, hlists⟩ := exists_keysOf (.sequence documents)
      exact ⟨text, documents, keys, hloads, hkeys, hlists ▸ hmismatch⟩
    · rintro ⟨text, documents, keys, hloads, hkeys, hmismatch⟩
      obtain ⟨keys', hkeys', hlists⟩ := exists_keysOf (.sequence documents)
      obtain rfl := hkeys.unique hkeys'
      exact ⟨text, documents, hloads, hlists ▸ hmismatch⟩

/-! ### A file with two lists -/

/-- A rule that only has a name. -/
def nameOnly (key name : String) : Yaml.Value :=
  .mapping [(.string key, .string name)]

/-- Rules on lines of their own under one key, and in brackets under another. -/
def twoListsContent : List UInt8 :=
  Utf8.encode "a:\n  rules:\n  - alert: x\n  - record: y\nrules: [\x7balert: z\x7d, w]\n".toList

/-- The only document of that file. -/
def twoListsDocument : Yaml.Value :=
  .mapping [
    (.string "a",
      .mapping [(.string "rules", .sequence [nameOnly "alert" "x", nameOnly "record" "y"])]),
    (.string "rules", .sequence [nameOnly "alert" "z", .string "w"])]

/-- The rules of that file. -/
def twoListsRules : List Rule :=
  [⟨"x", .alerting, .single 3, nameOnly "alert" "x"⟩,
    ⟨"y", .recording, .single 4, nameOnly "record" "y"⟩,
    ⟨"z", .alerting, .single 5, nameOnly "alert" "z"⟩, ⟨"", .invalid, .single 5, .string "w"⟩]

/-- A key for rules that the scan does not see. -/
def hiddenKeyContent : List UInt8 :=
  Utf8.encode "? rules\n: - alert: x\n".toList

theorem parse_twoListsContent : parse "f" "f" twoListsContent .strict =
    .ok (twoListsRules.map (Entry.ofRule "f" "f")) := by
  cbv

theorem readAll_twoListsContent : ((Utf8.decode twoListsContent).toOption.map Yaml.readAll) =
    some (.ok [twoListsDocument]) := by
  cbv

theorem parse_hiddenKeyContent : parse "f" "f" hiddenKeyContent .strict =
    .error (.refused ⟨"f", .unmatchedItems⟩) := by
  cbv

/-- The rules of both lists come one after the other, and a key that the scan does not see is a
mismatch. -/
theorem strictReading_twoLists :
    (∃ entries, parse "f" "f" twoListsContent .strict = .ok entries ∧
      entries.map Entry.rule = twoListsRules ∧ ∃ text keys,
        Loads yamlReader twoListsContent text [twoListsDocument] ∧
        KeysOf (.sequence [twoListsDocument]) keys ∧
        entries.map (fun e => e.rule.body) = keys.flatMap Prod.snd ∧
        ([0, 0, 0], [nameOnly "alert" "x", nameOnly "record" "y"]) ∈ keys ∧
        ([0, 1], [nameOnly "alert" "z", .string "w"]) ∈ keys) ∧
      parse "f" "f" hiddenKeyContent .strict = .error (.refused ⟨"f", .unmatchedItems⟩) ∧
      ∃ text documents keys, Loads yamlReader hiddenKeyContent text documents ∧
        KeysOf (.sequence documents) keys ∧ Mismatch (scan text).groups (keys.map Prod.snd) := by
  obtain ⟨text, documents, keys, hloads, hkeys, hbodies, -⟩ :=
    (strictReading yamlReader "f" "f" twoListsContent).kept _ parse_twoListsContent
  obtain rfl : documents = [twoListsDocument] := by
    have hdocuments := readAll_twoListsContent
    rw [hloads.1] at hdocuments
    exact Except.ok.inj (hloads.2.symm.trans (Option.some.inj hdocuments))
  refine ⟨⟨_, parse_twoListsContent, rfl, text, keys, hloads, hkeys, hbodies, ?_, ?_⟩,
    parse_hiddenKeyContent,
    (strictReading yamlReader "f" "f" hiddenKeyContent).unmatched_iff.mp parse_hiddenKeyContent⟩
  · exact (hkeys.mem_iff _ _).mpr (.item rfl (.entry rfl nofun (.list rfl (.string _))))
  · exact (hkeys.mem_iff _ _).mpr (.item rfl (.list rfl (.string _)))

end RuleFile

end RuleDelta

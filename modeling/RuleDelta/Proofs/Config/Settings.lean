import Mathlib.Data.List.Forall2
import Mathlib.Data.List.Infix
import RuleDelta.Config.YamlSettings
import RuleDelta.Proofs.Yaml.ParsedMapping
import RuleDelta.Proofs.Yaml.WrittenNumber

/-!
# Settings are read back

What is asked of a library for settings: that it writes settings with plain names, with these names
in the text, and that it reads back what it writes, whatever the texts in it look like. The settings
in YAML are such a library.

* `SettingsFormat.Lawful` are the laws;
* `Yaml.Document.settingsFrom_entries` reads the entries of written settings;
* `lawful_yamlSettings` are the laws for the settings in YAML.
-/

namespace RuleDelta

open Text Yaml

/-! ## The laws -/

/-- A short word of letters, digits and underscores. -/
structure IsSettingName (name : String) : Prop where
  ne_nil : name.toList ≠ []
  all_isKeyChar : name.toList.all isKeyChar = true
  length_le : name.toList.length ≤ 128

/-- Settings with words as their names, each of them once, and with machine words as their
numbers. -/
structure Writable (settings : List (String × Setting)) : Prop where
  ne_nil : settings ≠ []
  isSettingName : ∀ s ∈ settings, IsSettingName s.1
  nodup : (settings.map Prod.fst).Nodup
  count_le : ∀ name n, (name, .count n) ∈ settings → n ≤ wordMax

/-- The laws of a library for settings. -/
structure SettingsFormat.Lawful (format : SettingsFormat) : Prop where
  /-- Settings are written, -/
  exists_write {settings : List (String × Setting)} (h : Writable settings) :
    ∃ text, format.write settings = .ok text
  /-- with their names in the text, -/
  infix_of_write {settings : List (String × Setting)} {text : List Char} (h : Writable settings)
    (hwrite : format.write settings = .ok text) : ∀ s ∈ settings, s.1.toList <:+: text
  /-- and each of them is found again when a setting of its kind is asked of its name. -/
  exists_read {kinds : String → Option SettingKind} {settings : List (String × Setting)}
    {text : List Char} (h : Writable settings)
    (hkinds : ∀ s ∈ settings, kinds s.1 = some s.2.kind)
    (hwrite : format.write settings = .ok text) :
    ∃ found, format.read kinds text = .ok found ∧ ∀ s ∈ settings, found.lookup s.1 = some s.2

/-! ## Written settings -/

/-- What a setting is written as. -/
def Setting.written : Setting → WrittenValue
  | text s => .scalar (.ofText s.toList)
  | count n => .scalar (.ofNat n)
  | texts items => .list (items.map fun s => .ofText s.toList)

/-- The entry of a setting. -/
def Setting.entry (s : String × Setting) (h : IsSettingName s.1) : WrittenEntry where
  name := s.1.toList
  value := s.2.written
  name_ne_nil := h.ne_nil
  all_isKeyChar := h.all_isKeyChar
  length_name_le := h.length_le.trans (by decide)

theorem Setting.lines_entry (s : String × Setting) (h : IsSettingName s.1) :
    (entry s h).lines = settingLines s.1 s.2 := by
  obtain ⟨name, s⟩ := s
  cases s with
  | text s =>
    simp [entry, written, settingLines, WrittenEntry.lines, WrittenValue.lines, Scalar.lines_ofText]
  | count n =>
    simp [entry, written, settingLines, WrittenEntry.lines, WrittenValue.lines, toString,
      String.toList_append, Scalar.lines, WrittenStyle.lines, Scalar.ofNat]
  | texts items =>
    cases items with
    | nil => simp [entry, written, settingLines, WrittenEntry.lines, WrittenValue.lines]
    | cons s items =>
      simp [entry, written, settingLines, WrittenEntry.lines, WrittenValue.lines,
        List.flatMap_map, Scalar.lines_ofText]

theorem Setting.flatMap_lines_entry (settings : List (String × Setting))
    (h : ∀ s ∈ settings, IsSettingName s.1) :
    (settings.pmap entry h).flatMap WrittenEntry.lines =
      settings.flatMap fun s => settingLines s.1 s.2 := by
  induction settings with
  | nil => rfl
  | cons s settings ih =>
    rw [List.pmap_cons, List.flatMap_cons, lines_entry, ih, List.flatMap_cons]

theorem settingsLines_eq {settings : List (String × Setting)} (h : settings ≠ []) :
    settingsLines settings = settings.flatMap fun s => settingLines s.1 s.2 := by
  cases settings with
  | nil => exact absurd rfl h
  | cons s settings => rfl

theorem prefix_settingLines (name : String) (s : Setting) :
    name.toList <+: settingLines name s := by
  cases s with
  | text s => simp [settingLines]
  | count n => simp [settingLines, toString]
  | texts items => cases items <;> simp [settingLines]

namespace Yaml.Document

variable (d : Document) {node : Node}

/-! ## Nodes of settings -/

theorem readText_of_isNode {x : Yaml.Scalar} (h : x.IsNode node) :
    d.readText node = pure (String.ofList x.text) := by
  obtain ⟨mark, rfl⟩ := h
  rfl

/-- The induction is on the items. -/
theorem readTexts_of_isNode {items : List String}
    (h : (WrittenValue.list (items.map fun s => .ofText s.toList)).IsNode node) :
    d.readTexts node = pure items := by
  obtain ⟨mark, nodes, rfl, hnodes⟩ := h
  have hitems : nodes.mapM d.readText = (pure items : Reading (List String)) := by
    induction items generalizing nodes with
    | nil =>
      cases hnodes
      rfl
    | cons s items ih =>
      cases hnodes with
      | cons hnode hnodes =>
        rw [List.mapM_cons, readText_of_isNode d hnode, ih _ hnodes]
        simp [Scalar.ofText]
  exact hitems

theorem count?_toDigits {n : Nat} (h : n ≤ wordMax) : count? (Nat.toDigits 10 n) = some n := by
  have hminus : ((Nat.toDigits 10 n).head? == some '-') = false := by
    cases hdigits : Nat.toDigits 10 n with
    | nil => rfl
    | cons c rest =>
      have hc : c ≠ '-' := by
        rintro rfl
        exact toDigits_ne_cons (by decide) n rest hdigits
      simp [hc]
  rw [count?, hminus, int?_toDigits]
  simp [h]

theorem readCount_of_isNode {n : Nat} (hn : n ≤ wordMax)
    (h : (Yaml.Scalar.ofNat n).IsNode node) : d.readCount node = pure n := by
  obtain ⟨mark, rfl⟩ := h
  have hfollow : d.follow (.scalar mark none (Nat.toDigits 10 n) .plain) =
      pure (.scalar mark none (Nat.toDigits 10 n) .plain) := rfl
  have hplain : mayBeCount none .plain = true := rfl
  show d.readCount (.scalar mark none (Nat.toDigits 10 n) .plain) = pure n
  rw [readCount, hfollow, pure_bind]
  simp only [hplain, if_true, count?_toDigits hn]

theorem readSetting_of_isNode {s : Setting} (hcount : ∀ n, s = .count n → n ≤ wordMax)
    (h : s.written.IsNode node) : d.readSetting node s.kind = pure s := by
  cases s with
  | text s =>
    rw [Setting.kind, readSetting, readText_of_isNode d h, pure_bind]
    simp [Scalar.ofText]
  | count n =>
    rw [Setting.kind, readSetting, readCount_of_isNode d (hcount n rfl) h, pure_bind]
  | texts items =>
    rw [Setting.kind, readSetting, readTexts_of_isNode d h, pure_bind]

/-! ## Entries of settings -/

variable {kinds : String → Option SettingKind} {mark : Mark}

theorem addSetting_of_isNode {found : List (String × Setting)} {name : String} {s : Setting}
    (hkind : kinds name = some s.kind) (hnew : name ∉ found.map Prod.fst)
    (hcount : ∀ n, s = .count n → n ≤ wordMax) (h : s.written.IsNode node) :
    d.addSetting kinds mark found name node = pure (found ++ [(name, s)]) := by
  have hlookup : found.lookup name = none := by
    rw [List.lookup_eq_none_iff]
    rintro ⟨other, s'⟩ hmem
    rw [bne_iff_ne]
    rintro rfl
    exact hnew (List.mem_map_of_mem hmem)
  rw [addSetting, hkind]
  dsimp only
  rw [hlookup, readSetting_of_isNode d hcount h]
  rfl

/-- **The entries of settings** give these settings. None of them is found twice, so each one is
added to those before it. -/
theorem settingsFrom_entries {found settings : List (String × Setting)}
    (hnames : ∀ s ∈ settings, IsSettingName s.1)
    (hnodup : ((found ++ settings).map Prod.fst).Nodup)
    (hcounts : ∀ name n, (name, .count n) ∈ settings → n ≤ wordMax)
    (hkinds : ∀ s ∈ settings, kinds s.1 = some s.2.kind) {pairs : List (Node × Node)}
    (h : List.Forall₂ WrittenEntry.IsNode (settings.pmap Setting.entry hnames) pairs) :
    d.settingsFrom kinds mark found pairs = pure (found ++ settings) := by
  induction settings generalizing found pairs with
  | nil =>
    cases h
    rw [List.append_nil]
    rfl
  | cons s settings ih =>
    obtain ⟨name, s⟩ := s
    cases h with
    | @cons _ pair _ pairs hpair hpairs =>
      obtain ⟨⟨mark', hkey⟩, hvalue⟩ := hpair
      have hread : d.readText pair.1 = pure name := by
        rw [hkey]
        exact congrArg (pure (f := Reading)) String.ofList_toList
      have hnew : name ∉ found.map Prod.fst := by
        rw [List.map_append, List.nodup_append] at hnodup
        exact fun hmem => hnodup.2.2 name hmem name (by simp) rfl
      have hadd : d.addSetting kinds mark found name pair.2 = pure (found ++ [(name, s)]) := by
        refine addSetting_of_isNode d (hkinds _ List.mem_cons_self) hnew ?_ hvalue
        rintro n rfl
        exact hcounts name n (by simp)
      have hrest : d.settingsFrom kinds mark (found ++ [(name, s)]) pairs =
          pure (found ++ [(name, s)] ++ settings) := ih
        (fun s hs => hnames s (List.mem_cons_of_mem _ hs)) (by simpa using hnodup)
        (fun name n hs => hcounts name n (List.mem_cons_of_mem _ hs))
        (fun s hs => hkinds s (List.mem_cons_of_mem _ hs)) hpairs
      rw [settingsFrom, List.foldlM_cons]
      show ((do d.addSetting kinds mark found (← d.readText pair.1) pair.2) >>= fun found =>
        d.settingsFrom kinds mark found pairs) = _
      rw [hread, pure_bind, hadd, pure_bind, hrest, List.append_assoc, List.singleton_append]

end Yaml.Document

/-! ## Settings in YAML -/

theorem lookup_of_mem {settings : List (String × Setting)}
    (hnodup : (settings.map Prod.fst).Nodup) {s : String × Setting} (hs : s ∈ settings) :
    settings.lookup s.1 = some s.2 := by
  obtain ⟨before, after, rfl⟩ := List.mem_iff_append.mp hs
  rw [List.map_append, List.nodup_append] at hnodup
  refine List.lookup_eq_some_iff.mpr ⟨before, after, rfl, fun p hp => ?_⟩
  rw [bne_iff_ne]
  exact (hnodup.2.2 p.1 (List.mem_map_of_mem hp) s.1 (by simp)).symm

theorem readSettings_settingsLines {kinds : String → Option SettingKind}
    {settings : List (String × Setting)} (h : Writable settings)
    (hkinds : ∀ s ∈ settings, kinds s.1 = some s.2.kind) :
    readSettings kinds (settingsLines settings) = .ok settings := by
  obtain ⟨mark, pairs, size, hpairs, hdocument⟩ :
      ∃ mark pairs size,
        List.Forall₂ WrittenEntry.IsNode (settings.pmap Setting.entry h.isSettingName) pairs ∧
        Document.ofText (settingsLines settings) = [⟨.mapping mark none pairs, [], size, none⟩] := by
    rw [settingsLines_eq h.ne_nil, ← Setting.flatMap_lines_entry settings h.isSettingName]
    obtain ⟨s, rest, rfl⟩ := List.exists_cons_of_ne_nil h.ne_nil
    exact Document.ofText_lines _ _
  have hsettings : Document.settings kinds ⟨.mapping mark none pairs, [], size, none⟩ =
      .ok settings := by
    rw [Document.settings]
    dsimp only
    have hnodup : (([] ++ settings).map Prod.fst).Nodup := h.nodup
    rw [Document.settingsFrom_entries _ h.isSettingName hnodup h.count_le hkinds hpairs]
    rfl
  rw [readSettings, single, hdocument]
  exact hsettings

/-- **Settings in YAML** are read back. -/
theorem lawful_yamlSettings : yamlSettings.Lawful where
  exists_write _ := ⟨_, rfl⟩
  infix_of_write := by
    rintro settings _ h ⟨⟩ ⟨name, s⟩ hs
    have hlines : settingLines name s <:+: settingsLines settings := by
      rw [settingsLines_eq h.ne_nil, List.flatMap_def]
      exact List.infix_of_mem_flatten (List.mem_map_of_mem hs)
    exact (prefix_settingLines name s).isInfix.trans hlines
  exists_read := by
    rintro kinds settings _ h hkinds ⟨⟩
    exact ⟨settings, readSettings_settingsLines h hkinds, fun _ hs => lookup_of_mem h.nodup hs⟩

end RuleDelta

import RuleDelta.Config.Read
import RuleDelta.Proofs.Config.Settings

/-!
# Configurations are read back

The written form of a configuration is read as the configuration that it was written from, whatever
the texts in it look like, with any library for settings that keeps its laws.

* `Config.ofSettings_of_lookup` takes a configuration out of its settings;
* `Config.read_of_write` reads the written form, and `Config.ofYaml_toYaml` says that a run can go
  with what is read.
-/

namespace RuleDelta

open Text Yaml

namespace Config

variable {format : SettingsFormat} {c : Config}

/-! ## Settings of configurations -/

/-- No default stands for a setting that is found. -/
theorem ofSettings_of_lookup {found : List (String × Setting)}
    (h : ∀ s ∈ c.settings, found.lookup s.1 = some s.2) : ofSettings found = c := by
  simp only [settings, List.forall_mem_cons] at h
  obtain ⟨hbranch, hcount, hincluded, hexcluded, hrelaxed, -⟩ := h
  simp only [ofSettings, hbranch, hcount, hincluded, hexcluded, hrelaxed]
  rfl

theorem kinds_of_mem_settings : ∀ s ∈ c.settings, kinds s.1 = some s.2.kind := by
  simp [settings, kinds, Setting.kind]

theorem writable_settings (hc : c.maxCommits ≤ wordMax) : Writable c.settings where
  ne_nil := by simp [settings]
  isSettingName := by
    have hnames : ∀ name ∈ ["base_branch", "max_commits", "include", "exclude", "relaxed"],
        name.toList ≠ [] ∧ name.toList.all isKeyChar = true ∧ name.toList.length ≤ 128 := by
      decide
    intro s hs
    obtain ⟨hne, hchars, hlength⟩ := hnames s.1 (List.mem_map_of_mem hs)
    exact ⟨hne, hchars, hlength⟩
  nodup := by simp [settings]
  count_le := by
    intro name n hmem
    simp only [settings, List.mem_cons, Prod.mk.injEq, reduceCtorEq, and_false, false_or,
      Setting.count.injEq, List.not_mem_nil, or_false] at hmem
    exact hmem.2 ▸ hc

/-! ## Written configurations -/

/-- The name of a setting keeps a written form from being blank. -/
theorem allBlank_of_write (hformat : format.Lawful) (hc : c.maxCommits ≤ wordMax)
    {text : List Char} (h : format.write c.settings = .ok text) : allBlank text = false := by
  have hname : "relaxed".toList <:+: text :=
    hformat.infix_of_write (writable_settings hc) h ("relaxed", .texts c.relaxed)
      (by simp [settings])
  have hletter : 'r' ∈ text := hname.subset (by decide)
  rw [allBlank, List.all_eq_false]
  exact ⟨'r', hletter, by decide⟩

theorem read_of_write (hformat : format.Lawful) (hc : c.maxCommits ≤ wordMax) {text : List Char}
    (h : format.write c.settings = .ok text) : read format text = .ok c := by
  obtain ⟨found, hread, hfound⟩ :=
    hformat.exists_read (writable_settings hc) kinds_of_mem_settings h
  rw [read, allBlank_of_write hformat hc h, if_neg Bool.false_ne_true, hread]
  exact congrArg Except.ok (ofSettings_of_lookup hfound)

/-- **A configuration that a run can go with is read back** from its written form. -/
theorem ofYaml_toYaml (hformat : format.Lawful) {patterns : PatternReader}
    (h : c.validate patterns = .ok ()) (hc : c.maxCommits ≤ wordMax) :
    ∃ text, c.toYaml format = .ok text ∧ ofYaml format patterns text = .ok c := by
  obtain ⟨text, htext⟩ := hformat.exists_write (writable_settings hc)
  refine ⟨text, by rw [toYaml, htext]; rfl, ?_⟩
  rw [ofYaml, read_of_write hformat hc htext]
  show c.validated patterns = .ok c
  rw [validated, h]
  rfl

/-- A configuration with texts that read as something else, or as several lines, without quotes. -/
def quotedTexts : Config where
  baseBranch := "null\n "
  maxCommits := wordMax
  included := ["- \"a\": # b", "~", "'"]
  excluded := ["", "true", "20", "\t\n\x07 "]
  relaxed := []

theorem ofYaml_toYaml_quotedTexts :
    yamlSettings.Lawful ∧ quotedTexts.validate patternReader = .ok () ∧
      quotedTexts.maxCommits ≤ wordMax ∧
      ∃ text, quotedTexts.toYaml yamlSettings = .ok text ∧
        ofYaml yamlSettings patternReader text = .ok quotedTexts :=
  have hvalid : quotedTexts.validate patternReader = .ok () := rfl
  ⟨lawful_yamlSettings, hvalid, Nat.le_refl _,
    ofYaml_toYaml lawful_yamlSettings hvalid (Nat.le_refl _)⟩

end Config

end RuleDelta

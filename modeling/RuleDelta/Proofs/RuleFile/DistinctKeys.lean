import RuleDelta.Proofs.RuleFile.StrictReading
import RuleDelta.Proofs.Yaml.Reader

/-!
# The keys of the bodies of rules

Where a reader of YAML refuses mappings with two keys that are the same, the bodies of the rules of
a file have distinct keys too: they are parts of the values that the reader gives.
-/

namespace RuleDelta.RuleFile

open Text Yaml

/-- The values that a reader gives for whole texts have distinct keys. -/
def YamlReader.KeepsKeysApart (reader : YamlReader) : Prop :=
  ∀ text documents, reader.readAll text = .ok documents → ∀ v ∈ documents, v.DistinctKeys

theorem keepsKeysApart_yamlReader : yamlReader.KeepsKeysApart :=
  fun _ _ h => distinctKeys_of_readAll h

theorem KeyAt.distinctKeys {v : Value} {place : List Nat} {items : List Value}
    (h : KeyAt v place items) (hv : v.DistinctKeys) : ∀ w ∈ items, w.DistinctKeys := by
  induction h with
  | list here rules =>
    cases hv with
    | mapping apart keys values =>
      cases values _ (List.mem_of_getElem? here) with
      | sequence each => exact each
  | noList => exact List.forall_mem_nil _
  | entry here searched inside ih =>
    cases hv with
    | mapping apart keys values => exact ih (values _ (List.mem_of_getElem? here))
  | item here inside ih =>
    cases hv with
    | sequence each => exact ih (each _ (List.mem_of_getElem? here))
  | tagged tag inside ih =>
    cases hv with
    | tagged _ value => exact ih value

/-- **The bodies of the rules of a file have distinct keys.** -/
theorem distinctKeys_of_strict {reader : YamlReader} (hreader : reader.KeepsKeysApart)
    {sourcePath shownPath : String} {content : List UInt8} {entries : List Entry}
    (h : parseWith reader sourcePath shownPath content .strict = .ok entries) :
    ∀ e ∈ entries, e.rule.body.DistinctKeys := by
  obtain ⟨text, documents, keys, ⟨-, hread⟩, hkeys, hbodies, -⟩ := exists_keys_of_strict h
  intro e he
  have hbody : e.rule.body ∈ keys.flatMap Prod.snd := by
    rw [← hbodies]
    exact List.mem_map_of_mem he
  obtain ⟨key, hkey, hmem⟩ := List.mem_flatMap.mp hbody
  have hat : KeyAt (.sequence documents) key.1 key.2 := (hkeys.mem_iff _ _).mp hkey
  exact hat.distinctKeys (.sequence (hreader text documents hread)) _ hmem

end RuleDelta.RuleFile

import RuleDelta.Proofs.Discovery.Finder
import RuleDelta.Proofs.Discovery.Outcome
import RuleDelta.Proofs.RuleFile.Lenient

/-!
# What the relaxed list can change

The relaxed list says whose old sides are read leniently. A lenient reading adds something only
where a strict one refuses the file, so that the list counts for nothing in a run whose old sides
can all be read strictly (`find_withRelaxed`). `LenientExtends` says this together with what a
single lenient reading does, and `lenientExtends` proves it for any reader of YAML.
-/

namespace RuleDelta

open Run RuleFile Text

namespace Finder

variable {f : Finder} {relaxed : PatternList} {change : FileChange}

/-- The finder with another relaxed list. -/
def withRelaxed (f : Finder) (relaxed : PatternList) : Finder :=
  { f with relaxed }

/-- The old side of a changed file can be read strictly. -/
def ReadsStrictly (f : Finder) (change : FileChange) : Prop :=
  ∃ entries, f.parser change.before.effective change.before.name change.bodyBefore .strict =
    .ok entries

/-! ## A run with another relaxed list -/

/-- An old side that can be read strictly is read in the same way in both modes. -/
theorem parseBefore_of_readsStrictly (hparser : f.parser.Extends) (h : f.ReadsStrictly change) :
    f.parseBefore change =
      f.parser change.before.effective change.before.name change.bodyBefore .strict := by
  obtain ⟨entries, hstrict⟩ := h
  unfold parseBefore beforeMode
  split
  · rw [hstrict]
    exact hparser _ _ _ _ hstrict
  · rfl

theorem readBefore_withRelaxed (hparser : f.parser.Extends) (h : f.ReadsStrictly change) :
    (f.withRelaxed relaxed).readBefore change = f.readBefore change := by
  have hrelaxed : (f.withRelaxed relaxed).parseBefore change =
      f.parser change.before.effective change.before.name change.bodyBefore .strict :=
    parseBefore_of_readsStrictly (f := f.withRelaxed relaxed) hparser h
  rw [readBefore_eq, readBefore_eq, hrelaxed, parseBefore_of_readsStrictly hparser h]

theorem readFile_withRelaxed (hparser : f.parser.Extends)
    (h : f.filter.allows change.after.name = true → f.ReadsStrictly change) :
    (f.withRelaxed relaxed).readFile change = f.readFile change := by
  unfold readFile
  by_cases hallowed : f.filter.allows change.after.name = true
  · rw [readBefore_withRelaxed hparser (h hallowed)]
    rfl
  · have hleft : (f.withRelaxed relaxed).filter.allows change.after.name = false :=
      Bool.eq_false_iff.mpr hallowed
    rw [Bool.not_eq_true] at hallowed
    simp [hleft, hallowed]

theorem readFiles_withRelaxed (hparser : f.parser.Extends) {files : List FileChange}
    (h : ∀ change ∈ files, f.filter.allows change.after.name = true → f.ReadsStrictly change) :
    (f.withRelaxed relaxed).readFiles files = f.readFiles files := by
  induction files with
  | nil => rfl
  | cons change rest ih =>
    obtain ⟨hchange, hrest⟩ := List.forall_mem_cons.mp h
    rw [readFiles, readFiles, readFile_withRelaxed hparser hchange, ih hrest]

theorem keepAliases_withRelaxed (aliases : List Entry) :
    (f.withRelaxed relaxed).keepAliases aliases = f.keepAliases aliases := by
  induction aliases with
  | nil => rfl
  | cons a rest ih =>
    rw [keepAliases, keepAliases, ih]
    rfl

theorem addAliases_withRelaxed (entries : List Entry) :
    (f.withRelaxed relaxed).addAliases entries = f.addAliases entries := by
  simp only [addAliases, keepAliases_withRelaxed]
  rfl

theorem search_withRelaxed (hparser : f.parser.Extends) {files : List FileChange}
    (h : ∀ change ∈ files, f.filter.allows change.after.name = true → f.ReadsStrictly change) :
    (f.withRelaxed relaxed).search files = f.search files := by
  simp only [search, readFiles_withRelaxed hparser h, addAliases_withRelaxed]
  rfl

/-- **The relaxed list does not change a run whose old sides can all be read strictly**: neither its
result nor what it asks and reports. Only the changed files count whose paths the patterns let
through. -/
theorem find_withRelaxed (hparser : f.parser.Extends) {t : Trace}
    (h : ∀ files, f.ReadsFiles t files → ∀ change ∈ files,
      f.filter.allows change.after.name = true → f.ReadsStrictly change) :
    (f.withRelaxed relaxed).find.outcome t = f.find.outcome t := by
  rw [find_eq, find_eq]
  refine outcome_bind_congr fun _ s hstart => ?_
  obtain ⟨-, rfl⟩ := ends_emit.mp hstart
  refine outcome_bind_congr fun range s₁ hrange => ?_
  refine outcome_bind_congr fun files s₂ hfiles => ?_
  have hreads : f.ReadsFiles t files := ⟨range, s₁, s₂, hrange, returns_mapError.mp hfiles⟩
  rw [search_withRelaxed hparser (h files hreads)]

end Finder

/-! ## Lenient and strict readings -/

/-- Lenient readings extend strict ones. -/
structure LenientExtends (reader : YamlReader) : Prop where
  /-- A lenient reading refuses nothing. -/
  accepts : ∀ sourcePath shownPath content e,
    parseWith reader sourcePath shownPath content .lenient ≠ .error (.refused e)
  /-- A lenient reading returns, unless an item splits of a text that a strict one refuses. -/
  returns : ∀ sourcePath shownPath content,
    (∃ entries, parseWith reader sourcePath shownPath content .lenient = .ok entries) ∨
      parseWith reader sourcePath shownPath content .lenient = .error .broken ∧
        ∃ text, Utf8.decode content = .ok text ∧
          (∃ failure, parseWith reader sourcePath shownPath content .strict = .error failure) ∧
          ∃ b ∈ itemsOf text, b.Splits (scan text)
  /-- A lenient reading returns what a strict one returns. -/
  extends_strict : (parseWith reader).Extends
  /-- For a text that a strict reading refuses, it returns the items that can be read on their own.
  -/
  salvages : ∀ sourcePath shownPath content text failure entries,
    Utf8.decode content = .ok text →
      parseWith reader sourcePath shownPath content .strict = .error failure →
      parseWith reader sourcePath shownPath content .lenient = .ok entries →
      Salvaged reader sourcePath shownPath text entries
  /-- The relaxed list does not change a run whose old sides can all be read strictly. -/
  unchanged : ∀ (f : Finder) (relaxed : PatternList) (t : Trace), f.parser = parseWith reader →
    (∀ files, f.ReadsFiles t files → ∀ change ∈ files,
      f.filter.allows change.after.name = true → f.ReadsStrictly change) →
    (f.withRelaxed relaxed).find.outcome t = f.find.outcome t

/-- **Lenient readings extend strict ones**, in a single reading and in a run. -/
theorem lenientExtends (reader : YamlReader) : LenientExtends reader where
  accepts := lenient_ne_refused reader
  returns := returns_or_breaks reader
  extends_strict := extends_parseWith reader
  salvages _ _ _ _ _ _ := salvaged_of_lenient
  unchanged _ _ _ hparser h := Finder.find_withRelaxed (hparser ▸ extends_parseWith reader) h

/-- A file whose first rule has a sequence that does not end. -/
def unendedText : List Char :=
  "rules:\n- alert: [\n- record: y\n".toList

/-- The entry of the second rule. -/
def unendedEntries : List Entry :=
  [.ofRule "a" "a" (.ofBody (.single 3) (.mapping [(.string "record", .string "y")]))]

/-- A strict reading refuses that file, and a lenient one returns its second rule. -/
theorem salvaged_unended : Utf8.decode (Utf8.encode unendedText) = .ok unendedText ∧
    (∃ failure, parseWith yamlReader "a" "a" (Utf8.encode unendedText) .strict = .error failure) ∧
    parseWith yamlReader "a" "a" (Utf8.encode unendedText) .lenient = .ok unendedEntries ∧
    Salvaged yamlReader "a" "a" unendedText unendedEntries := by
  have htext : Utf8.decode (Utf8.encode unendedText) = .ok unendedText := by cbv
  have hrefused :
      (parseWith yamlReader "a" "a" (Utf8.encode unendedText) .strict).toOption.isNone = true := by
    cbv
  have hlenient : parseWith yamlReader "a" "a" (Utf8.encode unendedText) .lenient =
      .ok unendedEntries := by cbv
  cases hstrict : parseWith yamlReader "a" "a" (Utf8.encode unendedText) .strict with
  | ok entries => simp [hstrict, Except.toOption] at hrefused
  | error failure =>
    exact ⟨htext, ⟨failure, rfl⟩, hlenient,
      (lenientExtends yamlReader).salvages _ _ _ _ _ _ htext hstrict hlenient⟩

end RuleDelta

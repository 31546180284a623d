import RuleDelta.RuleFile.Scan

/-!
# The lines that a scan gives out

The scan of a file gives each key for rules the line of the key and the lines of its items: its
spans. The invariant of the scan is that the spans found so far are `Spaced`: they ascend, share no
line, and lie in front of the next line. `readLine_spaced` is what one line does to it, and
`groups_spaced` what follows for all lines. What the items have from their first line on is carried
along in the same way (`forall_readLine`, `groups_startIn`).
-/

namespace RuleDelta

/-- The lines of one range come before those of another. -/
def LineRange.Before (r s : LineRange) : Prop :=
  r.last < s.first

namespace RuleFile

/-- Ranges that ascend without a common line, from line `lo` on and in front of line `hi`. -/
structure Spaced (lo hi : Nat) (rs : List LineRange) : Prop where
  bounds : ∀ r ∈ rs, lo ≤ r.first ∧ r.last < hi
  ascending : rs.Pairwise LineRange.Before

namespace Spaced

variable {lo mid hi line : Nat} {rs ss : List LineRange}

theorem nil (lo hi : Nat) : Spaced lo hi [] :=
  ⟨by simp, .nil⟩

theorem single (line : Nat) : Spaced line (line + 1) [.single line] := by
  refine ⟨?_, List.pairwise_singleton _ _⟩
  simp [LineRange.single]

theorem mono {lo' hi' : Nat} (h : Spaced lo hi rs) (hlo : lo' ≤ lo) (hhi : hi ≤ hi') :
    Spaced lo' hi' rs := by
  refine ⟨fun r hr => ?_, h.ascending⟩
  have := h.bounds r hr
  omega

theorem append (hr : Spaced lo mid rs) (hs : Spaced mid hi ss) (hlo : lo ≤ mid) (hhi : mid ≤ hi) :
    Spaced lo hi (rs ++ ss) := by
  constructor
  · intro r hmem
    rcases List.mem_append.mp hmem with hmem | hmem
    · have := hr.bounds r hmem
      omega
    · have := hs.bounds r hmem
      omega
  · refine List.pairwise_append.mpr ⟨hr.ascending, hs.ascending, fun r hmem s hmem' => ?_⟩
    have := hr.bounds r hmem
    have := hs.bounds s hmem'
    show r.last < s.first
    omega

/-- The last range may grow up to the line that comes next. -/
theorem grow {r s : LineRange} (h : Spaced lo line (rs ++ [r])) (hfirst : s.first = r.first)
    (hlast : s.last ≤ line) : Spaced lo (line + 1) (rs ++ [s]) := by
  obtain ⟨hbounds, hascending⟩ := h
  rw [List.pairwise_append] at hascending
  constructor
  · intro t ht
    rcases List.mem_append.mp ht with ht | ht
    · have := hbounds t (List.mem_append_left _ ht)
      omega
    · obtain rfl := List.mem_singleton.mp ht
      have := hbounds r (by simp)
      omega
  · refine List.pairwise_append.mpr ⟨hascending.1, List.pairwise_singleton _ _, ?_⟩
    intro t ht s' hs'
    obtain rfl := List.mem_singleton.mp hs'
    have := hascending.2.2 t ht r (by simp)
    show t.last < s'.first
    rw [hfirst]
    exact this

end Spaced

/-- The line of the key and the lines of its items. -/
def RuleGroup.spans (g : RuleGroup) : List LineRange :=
  .single g.keyLine :: g.blocks.map RuleBlock.lines

namespace OpenGroup

/-- The spans of a group as it stands. -/
def spans (g : OpenGroup) : List LineRange :=
  g.close.spans

theorem spans_start (keyLine indent : Nat) : (start keyLine indent).spans = [.single keyLine] := rfl

theorem spans_startItem (g : OpenGroup) (line dash : Nat) :
    (g.startItem line dash).spans = g.spans ++ [.single line] := by
  simp [spans, close, RuleGroup.spans, startItem, RuleBlock.start]

/-- The spans of a group without an item that is being read. -/
theorem spans_of_current_eq_none {g : OpenGroup} (h : g.current = none) (line : Nat) :
    (g.extend line).spans = g.spans := by
  simp [spans, close, RuleGroup.spans, extend, h]

/-- The item that is being read has the last span. -/
theorem spans_of_current_eq_some {g : OpenGroup} {b : RuleBlock} (h : g.current = some b) :
    g.spans = (.single g.keyLine :: g.finished.reverse.map RuleBlock.lines) ++ [b.lines] := by
  simp [spans, close, RuleGroup.spans, h]

variable {lo line : Nat} {g g' : OpenGroup}

theorem extend_spaced (h : Spaced lo line g.spans) :
    Spaced lo (line + 1) (g.extend line).spans := by
  cases hcur : g.current with
  | none =>
    rw [spans_of_current_eq_none hcur]
    exact h.mono (Nat.le_refl _) (by omega)
  | some b =>
    have hext : (g.extend line).current = some (b.extend line) := by simp [extend, hcur]
    have hb : b.lines.last < line := by
      refine (h.bounds b.lines ?_).2
      rw [spans_of_current_eq_some hcur]
      simp
    rw [spans_of_current_eq_some hcur] at h
    rw [spans_of_current_eq_some hext]
    refine h.grow rfl ?_
    show max b.lines.last line ≤ line
    omega

theorem startItem_spaced (h : Spaced lo line g.spans) (hlo : lo ≤ line) (dash : Nat) :
    Spaced lo (line + 1) (g.startItem line dash).spans := by
  rw [spans_startItem]
  exact h.append (.single line) hlo (by omega)

/-- A line with text that does not end a group extends its last item or starts one. -/
theorem read?_eq_some {s : List Char} (h : g.read? line s = some g') :
    g' = g.extend line ∨
      isListItem (unindented s) = true ∧ g' = g.startItem line (indentOf s) := by
  unfold read? at h
  cases hcur : g.current with
  | none =>
    simp only [hcur, Option.ite_none_right_eq_some, Option.some.injEq] at h
    exact .inr ⟨h.1.1, h.2.symm⟩
  | some b =>
    simp only [hcur] at h
    split at h
    · exact .inl (Option.some.inj h).symm
    · split at h
      · rename_i hitem
        exact .inr ⟨hitem.2, (Option.some.inj h).symm⟩
      · cases h

theorem read?_spaced {s : List Char} (h : g.read? line s = some g')
    (hg : Spaced lo line g.spans) (hlo : lo ≤ line) : Spaced lo (line + 1) g'.spans := by
  rcases read?_eq_some h with rfl | ⟨-, rfl⟩
  · exact extend_spaced hg
  · exact startItem_spaced hg hlo _

end OpenGroup

/-! ## The scan -/

/-- The spans of the group that is open, if one is. -/
def openSpans (open? : Option OpenGroup) : List LineRange :=
  open?.toList.flatMap OpenGroup.spans

/-- The spans of some groups, in their order. -/
def spansOf (gs : List RuleGroup) : List LineRange :=
  gs.flatMap RuleGroup.spans

/-- What a line does to the invariant: the groups that it finishes lie in front of some line, and
the group that is open behind it lies from there on. -/
def SpacedStep (lo hi : Nat) (found : List RuleGroup × Option OpenGroup) : Prop :=
  ∃ mid, lo ≤ mid ∧ mid ≤ hi ∧ Spaced lo mid (spansOf found.1) ∧ Spaced mid hi (openSpans found.2)

theorem openSpans_some (g : OpenGroup) : openSpans (some g) = g.spans := by
  simp [openSpans]

/-- A step that finishes no group. -/
theorem SpacedStep.ofOpen {lo hi : Nat} {open? : Option OpenGroup} (h : lo ≤ hi)
    (hopen : Spaced lo hi (openSpans open?)) : SpacedStep lo hi ([], open?) :=
  ⟨lo, Nat.le_refl _, h, .nil _ _, hopen⟩

/-- A line opens spans of its own only. -/
theorem openAt_spaced (line : Nat) (s : List Char) :
    SpacedStep line (line + 1) (openAt line s) := by
  unfold openAt
  split
  · refine .ofOpen (by omega) ?_
    rw [openSpans_some, OpenGroup.spans_start]
    exact .single line
  · exact ⟨line + 1, by omega, Nat.le_refl _, .single line, .nil _ _⟩
  · exact .ofOpen (by omega) (.nil _ _)

/-- **A line keeps the spans apart.** -/
theorem readLine_spaced {lo line : Nat} {open? : Option OpenGroup} (hlo : lo ≤ line)
    (h : Spaced lo line (openSpans open?)) (s : List Char) (marked : Bool) :
    SpacedStep lo (line + 1) (readLine line open? s marked) := by
  obtain ⟨mid, hmid, hmid', hfinished, hopen⟩ := openAt_spaced line s
  match open? with
  | none =>
    rw [readLine]
    split
    · exact .ofOpen (by omega) (.nil _ _)
    · exact ⟨mid, by omega, hmid', hfinished.mono hlo (Nat.le_refl _), hopen⟩
  | some g =>
    rw [openSpans_some] at h
    simp only [readLine]
    split
    · refine .ofOpen (by omega) ?_
      rw [openSpans_some]
      exact OpenGroup.extend_spaced h
    · split
      · refine .ofOpen (by omega) ?_
        rw [openSpans_some]
        exact h.mono (Nat.le_refl _) (by omega)
      · split
        · rename_i g' hread
          refine .ofOpen (by omega) ?_
          rw [openSpans_some]
          exact OpenGroup.read?_spaced hread h hlo
        · refine ⟨mid, by omega, hmid', ?_, hopen⟩
          show Spaced lo mid (spansOf (g.close :: (openAt line s).1))
          rw [spansOf, List.flatMap_cons]
          exact h.append hfinished hlo hmid

/-- All lines keep the spans apart: the induction is on the lines, with the open group in the
invariant. -/
theorem groupsFrom_spaced {lo line : Nat} {open? : Option OpenGroup} (hlo : lo ≤ line)
    (h : Spaced lo line (openSpans open?)) (rows : List (List Char × Bool)) :
    Spaced lo (line + rows.length) (spansOf (groupsFrom line open? rows)) := by
  induction rows generalizing lo line open? with
  | nil =>
    have hclose : spansOf (groupsFrom line open? []) = openSpans open? := by
      cases open? <;> simp [groupsFrom, spansOf, openSpans, OpenGroup.spans]
    rw [hclose]
    exact h
  | cons row rest ih =>
    obtain ⟨s, marked⟩ := row
    obtain ⟨mid, hmid, hmid', hfinished, hopen⟩ := readLine_spaced hlo h s marked
    have hrest := ih hmid' hopen
    rw [groupsFrom, spansOf, List.flatMap_append, List.length_cons]
    refine hfinished.append (hrest.mono (Nat.le_refl _) (by omega)) hmid (by omega)

/-- **The spans of a file ascend without a common line**, and all of them are lines of the file. -/
theorem groups_spaced (rows : List (List Char)) (marks : List Bool) :
    Spaced 1 (1 + rows.length) (spansOf (groups rows marks)) := by
  refine (groupsFrom_spaced (Nat.le_refl 1) (.nil _ _) (rows.zip marks)).mono (Nat.le_refl _) ?_
  rw [List.length_zip]
  omega

/-! ## The items of a scan -/

section Items

variable {P : RuleBlock → Prop} {line : Nat} {s : List Char}

theorem OpenGroup.mem_blocks_close {g : OpenGroup} {b : RuleBlock} :
    b ∈ g.close.blocks ↔ b ∈ g.current ∨ b ∈ g.finished := by
  simp [close, or_comm]

/-- What every item keeps that a line is added to holds of the items that a group has with a further
line. -/
theorem OpenGroup.forall_extend (hextend : ∀ b line, P b → P (b.extend line)) {g : OpenGroup}
    (h : ∀ b ∈ g.close.blocks, P b) : ∀ b ∈ (g.extend line).close.blocks, P b := by
  simp only [mem_blocks_close] at h ⊢
  rintro b (hb | hb)
  · obtain ⟨b', hb', rfl⟩ := Option.map_eq_some_iff.mp hb
    exact hextend b' line (h b' (.inl hb'))
  · exact h b (.inr hb)

theorem OpenGroup.forall_startItem {g : OpenGroup} {dash : Nat} (h : ∀ b ∈ g.close.blocks, P b)
    (hstart : P (.start line dash)) : ∀ b ∈ (g.startItem line dash).close.blocks, P b := by
  simp only [mem_blocks_close] at h ⊢
  rintro b (hb | hb)
  · obtain rfl := Option.some.inj hb
    exact hstart
  · rcases List.mem_append.mp hb with hb | hb
    · exact h b (.inl (Option.mem_toList.mp hb))
    · exact h b (.inr hb)

/-- A key for rules starts without items. -/
theorem forall_openAt : (∀ g ∈ (openAt line s).1, ∀ b ∈ g.blocks, P b) ∧
    ∀ g ∈ (openAt line s).2, ∀ b ∈ g.close.blocks, P b := by
  unfold openAt
  split
  · simp [OpenGroup.start, OpenGroup.close]
  · simp
  · simp

/-- What every item has that a line starts, and keeps with a further line, holds of the items behind
that line. -/
theorem forall_readLine (hextend : ∀ b line, P b → P (b.extend line)) {open? : Option OpenGroup}
    (hopen : ∀ g ∈ open?, ∀ b ∈ g.close.blocks, P b)
    (hstart : isListItem (unindented s) = true → P (.start line (indentOf s))) (marked : Bool) :
    (∀ g ∈ (readLine line open? s marked).1, ∀ b ∈ g.blocks, P b) ∧
      ∀ g ∈ (readLine line open? s marked).2, ∀ b ∈ g.close.blocks, P b := by
  obtain ⟨hfinished, hopened⟩ : (∀ g ∈ (openAt line s).1, ∀ b ∈ g.blocks, P b) ∧
      ∀ g ∈ (openAt line s).2, ∀ b ∈ g.close.blocks, P b := forall_openAt
  match open? with
  | none =>
    rw [readLine]
    split
    · simp
    · exact ⟨hfinished, hopened⟩
  | some g =>
    have hg := hopen g rfl
    simp only [readLine]
    split
    · exact ⟨by simp, fun _ h => Option.some.inj h ▸ OpenGroup.forall_extend hextend hg⟩
    · split
      · exact ⟨by simp, hopen⟩
      · split
        · rename_i g' hread
          refine ⟨by simp, fun _ h => Option.some.inj h ▸ ?_⟩
          rcases OpenGroup.read?_eq_some hread with rfl | ⟨hitem, rfl⟩
          · exact OpenGroup.forall_extend hextend hg
          · exact OpenGroup.forall_startItem hg (hstart hitem)
        · exact ⟨List.forall_mem_cons.mpr ⟨hg, hfinished⟩, hopened⟩

/-- All lines keep it, by induction on the lines. -/
theorem forall_groupsFrom (hextend : ∀ b line, P b → P (b.extend line)) {open? : Option OpenGroup}
    (hopen : ∀ g ∈ open?, ∀ b ∈ g.close.blocks, P b) {rows : List (List Char × Bool)}
    (hstart : ∀ i s marked, rows[i]? = some (s, marked) → isListItem (unindented s) = true →
      P (.start (line + i) (indentOf s))) :
    ∀ g ∈ groupsFrom line open? rows, ∀ b ∈ g.blocks, P b := by
  induction rows generalizing line open? with
  | nil =>
    rintro g hg b hb
    obtain ⟨g', hg', rfl⟩ := Option.map_eq_some_iff.mp (Option.mem_toList.mp hg)
    exact hopen g' hg' b hb
  | cons row rest ih =>
    obtain ⟨s, marked⟩ := row
    obtain ⟨hfinished, hopened⟩ := forall_readLine hextend hopen (hstart 0 s marked rfl) marked
    have hrest := ih hopened fun i s' marked' hrow hitem => by
      rw [Nat.add_assoc, Nat.add_comm 1 i]
      exact hstart (i + 1) s' marked' hrow hitem
    exact List.forall_mem_append.mpr ⟨hfinished, hrest⟩

end Items

/-- The first line of an item has its dash. -/
def RuleBlock.StartsIn (rows : List (List Char)) (b : RuleBlock) : Prop :=
  ∃ line, rows[b.lines.first - 1]? = some line ∧ indentOf line = b.dash ∧
    isListItem (unindented line) = true

/-- **The items of a scan start with their dashes.** -/
theorem groups_startIn (rows : List (List Char)) (marks : List Bool) :
    ∀ g ∈ groups rows marks, ∀ b ∈ g.blocks, b.StartsIn rows := by
  refine forall_groupsFrom (fun b line h => h) (by simp) fun i s marked hrow hitem => ?_
  refine ⟨s, ?_, rfl, hitem⟩
  rw [List.getElem?_zip_eq_some] at hrow
  simpa [RuleBlock.start, LineRange.single] using hrow.1

end RuleFile

end RuleDelta

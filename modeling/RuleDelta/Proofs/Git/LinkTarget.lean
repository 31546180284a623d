import Mathlib.Data.List.Infix
import RuleDelta.Git.LinkTarget

/-!
# Links that lead outside

A link has no target when it leads outside of the repository or to its top. Which links these are is
a matter of levels: a part of a path leads one level down or one level up, or it stays.

* `Climbs` says that some parts lead above the top, and `walk?_eq_none_iff` that a walk along them
  fails exactly then;
* `Outside` says what links have no target, and `linkTarget?_eq_none_iff` that no other lacks one.
-/

namespace RuleDelta

open Text

/-! ## Levels -/

/-- The part of a path that leads one level up. -/
def upPart : List Char := ['.', '.']

/-- A part of a path that leads one level down. -/
def LeadsDown (part : List Char) : Prop :=
  part ≠ [] ∧ part ≠ ['.'] ∧ part ≠ upPart

instance : DecidablePred LeadsDown := fun _ => inferInstanceAs (Decidable (_ ∧ _))

/-- How many of the parts lead down. -/
def downs (parts : List (List Char)) : Nat :=
  parts.countP fun part => LeadsDown part

/-- How many of the parts lead up. -/
def ups (parts : List (List Char)) : Nat :=
  parts.count upPart

/-- From this level, some of the parts at the front lead above the top. -/
def Climbs (level : Nat) (parts : List (List Char)) : Prop :=
  ∃ front, front <+: parts ∧ level + downs front < ups front

section

variable {level : Nat} {part : List Char} {dir dir' rest parts : List (List Char)}

theorem downs_cons (part : List Char) (rest : List (List Char)) :
    downs (part :: rest) = downs [part] + downs rest := by
  simp [downs, List.countP_cons, Nat.add_comm]

theorem ups_cons (part : List Char) (rest : List (List Char)) :
    ups (part :: rest) = ups [part] + ups rest := by
  simp [ups, List.count_cons, Nat.add_comm]

/-- A part stays, leads up or leads down. -/
theorem stays_or_leads (part : List Char) :
    (part = [] ∨ part = ['.']) ∧ downs [part] = 0 ∧ ups [part] = 0 ∨
      part = upPart ∧ downs [part] = 0 ∧ ups [part] = 1 ∨
      LeadsDown part ∧ downs [part] = 1 ∧ ups [part] = 0 := by
  by_cases hstays : part = [] ∨ part = ['.']
  · refine .inl ⟨hstays, ?_⟩
    rcases hstays with rfl | rfl <;> decide
  by_cases hup : part = upPart
  · subst hup
    exact .inr (.inl ⟨rfl, by decide⟩)
  · have hdown : LeadsDown part := ⟨(not_or.mp hstays).1, (not_or.mp hstays).2, hup⟩
    exact .inr (.inr ⟨hdown, by simp [downs, hdown], by simp [ups, hup]⟩)

theorem not_climbs_nil : ¬Climbs level [] := by
  rintro ⟨front, hfront, hlt⟩
  obtain rfl := List.prefix_nil.mp hfront
  exact Nat.not_lt_zero _ hlt

theorem climbs_cons_iff : Climbs level (part :: rest) ↔ ∃ front, front <+: rest ∧
    level + (downs [part] + downs front) < ups [part] + ups front := by
  constructor
  · rintro ⟨front, hfront, hlt⟩
    rcases List.prefix_cons_iff.mp hfront with rfl | ⟨front, rfl, hrest⟩
    · exact absurd hlt (Nat.not_lt_zero _)
    · exact ⟨front, hrest, by rwa [← downs_cons, ← ups_cons]⟩
  · rintro ⟨front, hfront, hlt⟩
    refine ⟨part :: front, List.cons_prefix_cons.mpr ⟨rfl, hfront⟩, ?_⟩
    rwa [downs_cons, ups_cons]

theorem walk?_stays (h : part = [] ∨ part = ['.']) : walk? dir (part :: rest) = walk? dir rest := by
  rcases h with rfl | rfl <;> cases dir <;> rfl

theorem walk?_down (h : LeadsDown part) : walk? dir (part :: rest) = walk? (part :: dir) rest := by
  have hup : part ≠ ['.', '.'] := h.2.2
  cases dir <;> simp [walk?, h.1, h.2.1, hup]

/-- **A walk fails exactly when its parts lead above the top.** -/
theorem walk?_eq_none_iff : walk? dir parts = none ↔ Climbs dir.length parts := by
  induction parts generalizing dir with
  | nil => simp [walk?, not_climbs_nil]
  | cons part rest ih =>
    rw [climbs_cons_iff]
    rcases stays_or_leads part with ⟨hstays, hdowns, hups⟩ | ⟨rfl, hdowns, hups⟩ |
      ⟨hdown, hdowns, hups⟩
    · rw [walk?_stays hstays, ih, hdowns, hups]
      simp only [Climbs, Nat.zero_add]
    · rw [hdowns, hups]
      cases dir with
      | nil => exact iff_of_true rfl ⟨[], List.nil_prefix, by decide⟩
      | cons top up =>
        have hwalk : walk? (top :: up) (upPart :: rest) = walk? up rest := rfl
        rw [hwalk, ih, List.length_cons]
        refine exists_congr fun front => and_congr_right fun _ => ?_
        omega
    · rw [walk?_down hdown, ih, List.length_cons, hdowns, hups]
      refine exists_congr fun front => and_congr_right fun _ => ?_
      omega

/-- A walk ends on the level that its parts lead to. -/
theorem length_of_walk? (h : walk? dir parts = some dir') :
    dir'.length + ups parts = dir.length + downs parts := by
  induction parts generalizing dir with
  | nil =>
    obtain rfl := Option.some.inj h
    rfl
  | cons part rest ih =>
    rw [downs_cons, ups_cons]
    rcases stays_or_leads part with ⟨hstays, hdowns, hups⟩ | ⟨rfl, hdowns, hups⟩ |
      ⟨hdown, hdowns, hups⟩
    · rw [walk?_stays hstays] at h
      have := ih h
      omega
    · cases dir with
      | nil => cases h
      | cons top up =>
        have hrest : walk? up rest = some dir' := h
        have := ih hrest
        rw [List.length_cons]
        omega
    · rw [walk?_down hdown] at h
      have := ih h
      rw [List.length_cons] at this
      omega

end

/-! ## Links -/

/-- The level of the directory of a link. -/
def linkLevel (link : List Char) : Nat :=
  (splitAt '/' link).dropLast.length

/-- The parts of the target of a link. -/
def targetParts (target : List Char) : List (List Char) :=
  splitAt '/' (trim target)

/-- A link with a target leads outside of the repository, or to its top. -/
inductive Outside (link target : List Char) : Prop
  /-- The target is not given from the directory of the link. -/
  | absolute (h : target.head? = some '/')
  /-- Some of the parts of the target lead above the top. -/
  | above (h : Climbs (linkLevel link) (targetParts target))
  /-- All of the parts lead to the top. -/
  | top (h : linkLevel link + downs (targetParts target) = ups (targetParts target))

/-- **A link has no target exactly when it leads outside.** -/
theorem linkTarget?_eq_none_iff {link target : List Char} :
    linkTarget? link target = none ↔ Outside link target := by
  have hlevel : (splitAt '/' link).dropLast.reverse.length = linkLevel link := List.length_reverse
  unfold linkTarget?
  by_cases habsolute : target.head? = some '/'
  · simp [habsolute, Outside.absolute]
  rw [if_neg (by simpa using habsolute)]
  cases hwalk : walk? (splitAt '/' link).dropLast.reverse (splitAt '/' (trim target)) with
  | none =>
    rw [walk?_eq_none_iff, hlevel] at hwalk
    exact iff_of_true rfl (.above hwalk)
  | some dir =>
    have hlength := length_of_walk? hwalk
    have hinside : ¬Climbs (linkLevel link) (targetParts target) := by
      rw [← hlevel, targetParts, ← walk?_eq_none_iff, hwalk]
      exact nofun
    rw [hlevel] at hlength
    cases dir with
    | nil => exact iff_of_true rfl (.top (by simpa [targetParts] using hlength.symm))
    | cons part up =>
      refine iff_of_false nofun ?_
      rintro (h | h | h)
      · exact habsolute h
      · exact hinside h
      · rw [targetParts] at h
        rw [List.length_cons] at hlength
        omega

end RuleDelta

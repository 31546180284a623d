import RuleDelta.Proofs.Git.LinkTarget
import RuleDelta.Proofs.Text.Split

/-!
# The path behind a link

The target of a link is walked from the directory of the link, one part after the other. A part that
is empty or a dot stays, two dots lead to the directory above, and any other part leads into the
directory of that name. No walk goes above the top.

* `Step` and `Walk` are the steps and walks from directory to directory;
* `walk?_eq_some_iff` says that `walk?` finds the end of a walk;
* `Resolves` says what a link stands for, and `resolves_linkTarget?` that this is its path.
-/

namespace RuleDelta

open Text

/-! ## Walks -/

/-- A part of a path leads from one directory to another, both given by their parts from the top
on. -/
inductive Step : List (List Char) → List Char → List (List Char) → Prop
  | stay {dir : List (List Char)} {part : List Char} (h : part = [] ∨ part = ['.']) :
    Step dir part dir
  | up (dir : List (List Char)) (last : List Char) : Step (dir ++ [last]) upPart dir
  | down {dir : List (List Char)} {part : List Char} (h : LeadsDown part) :
    Step dir part (dir ++ [part])

/-- The parts of a path lead from one directory to another. -/
inductive Walk : List (List Char) → List (List Char) → List (List Char) → Prop
  | nil (dir : List (List Char)) : Walk dir [] dir
  | cons {dir mid dir' rest : List (List Char)} {part : List Char} (hstep : Step dir part mid)
    (hrest : Walk mid rest dir') : Walk dir (part :: rest) dir'

section

variable {dir dir' mid rest parts : List (List Char)} {part : List Char}

theorem walk?_of_step (h : Step dir part mid) :
    walk? dir.reverse (part :: rest) = walk? mid.reverse rest := by
  cases h with
  | stay h => exact walk?_stays h
  | up last =>
    rw [List.reverse_append, List.reverse_singleton]
    rfl
  | down h => rw [walk?_down h, List.reverse_append, List.reverse_singleton, List.singleton_append]

/-- A part from which a walk goes on makes a step. -/
theorem exists_step (h : walk? dir.reverse (part :: rest) = some dir'.reverse) :
    ∃ mid, Step dir part mid := by
  rcases stays_or_leads part with ⟨hstays, -⟩ | ⟨rfl, -⟩ | ⟨hdown, -⟩
  · exact ⟨dir, .stay hstays⟩
  · rcases List.eq_nil_or_concat dir with rfl | ⟨up, last, rfl⟩
    · cases h
    · exact ⟨up, List.concat_eq_append ▸ .up up last⟩
  · exact ⟨dir ++ [part], .down hdown⟩

/-- **A walk is found with its end.** -/
theorem walk?_eq_some_iff : walk? dir.reverse parts = some dir'.reverse ↔ Walk dir parts dir' := by
  constructor
  · intro h
    induction parts generalizing dir with
    | nil =>
      obtain rfl : dir = dir' := List.reverse_injective (Option.some.inj h)
      exact .nil dir
    | cons part rest ih =>
      obtain ⟨mid, hstep⟩ := exists_step h
      exact .cons hstep (ih ((walk?_of_step hstep).symm.trans h))
  · intro h
    induction h with
    | nil dir => rfl
    | cons hstep _ ih => rw [walk?_of_step hstep, ih]

/-- Where no parts at the front lead above the top, the levels tell whether all lead to the top. -/
theorem walk_top_iff (h : ¬Climbs dir.length parts) :
    Walk dir parts [] ↔ dir.length + downs parts = ups parts := by
  rw [← List.length_reverse, ← walk?_eq_none_iff] at h
  obtain ⟨last, hlast⟩ := Option.ne_none_iff_exists'.mp h
  have hlength := length_of_walk? hlast
  rw [List.length_reverse] at hlength
  rw [← walk?_eq_some_iff, hlast, List.reverse_nil, Option.some.injEq, ← List.length_eq_zero_iff]
  omega

theorem forall_of_step {p : List Char → Prop} (h : Step dir part mid) (hdir : ∀ d ∈ dir, p d)
    (hpart : LeadsDown part → p part) : ∀ d ∈ mid, p d := by
  cases h with
  | stay h => exact hdir
  | up last => exact fun d hd => hdir d (List.mem_append_left _ hd)
  | down h =>
    rw [List.forall_mem_append, List.forall_mem_singleton]
    exact ⟨hdir, hpart h⟩

/-- What holds of the parts of a directory and of the parts that lead down holds of the parts of the
directory that they lead to. -/
theorem Walk.forall_mem {p : List Char → Prop} (h : Walk dir parts dir') (hdir : ∀ d ∈ dir, p d)
    (hparts : ∀ part ∈ parts, LeadsDown part → p part) : ∀ d ∈ dir', p d := by
  induction h with
  | nil dir => exact hdir
  | cons hstep _ ih =>
    obtain ⟨hpart, hrest⟩ := List.forall_mem_cons.mp hparts
    exact ih (forall_of_step hstep hdir hpart) hrest

end

/-! ## Links -/

/-- The directory of a link, by its parts. -/
def linkDir (link : List Char) : List (List Char) :=
  (splitAt '/' link).dropLast

/-- What a link with a target stands for. -/
structure Resolves (link target : List Char) (path? : Option (List Char)) : Prop where
  /-- Nothing, if the target is absolute, if some of its parts at the front lead above the top, or
  if all of them lead to the top. -/
  none_iff : path? = none ↔ target.head? = some '/' ∨
    Climbs (linkDir link).length (splitAt '/' target) ∨ Walk (linkDir link) (splitAt '/' target) []
  /-- Otherwise a path: the parts of the target lead from the directory of the link to it. -/
  some_iff : ∀ path, path? = some path ↔ target.head? ≠ some '/' ∧
    Walk (linkDir link) (splitAt '/' target) (splitAt '/' path)
  /-- The path has parts, and each of them is a name. -/
  named : ∀ path, path? = some path →
    splitAt '/' path ≠ [] ∧ ∀ part ∈ splitAt '/' path, LeadsDown part

section

variable {link target path : List Char}

/-- The path behind a link is the end of a walk, part by part. -/
theorem linkTarget?_eq_some_iff : linkTarget? link target = some path ↔
    target.head? ≠ some '/' ∧ ∃ dir, dir ≠ [] ∧ Walk (linkDir link) (targetParts target) dir ∧
      ['/'].intercalate dir = path := by
  unfold linkTarget?
  by_cases habsolute : target.head? = some '/'
  · simp [habsolute]
  rw [if_neg (by simpa using habsolute), and_iff_right habsolute]
  simp only [← walk?_eq_some_iff, linkDir, targetParts]
  cases walk? (splitAt '/' link).dropLast.reverse (splitAt '/' (trim target)) with
  | none => simp
  | some dir =>
    cases dir with
    | nil => simp
    | cons last up =>
      simp only [Option.some.injEq]
      constructor
      · rintro rfl
        exact ⟨(last :: up).reverse, by simp, by simp, rfl⟩
      · rintro ⟨dir, -, hdir, rfl⟩
        rw [hdir, List.reverse_reverse]

theorem outside_iff : Outside link target ↔ target.head? = some '/' ∨
    Climbs (linkDir link).length (targetParts target) ∨
    (linkDir link).length + downs (targetParts target) = ups (targetParts target) := by
  constructor
  · rintro (h | h | h)
    · exact .inl h
    · exact .inr (.inl h)
    · exact .inr (.inr h)
  · rintro (h | h | h)
    · exact .absolute h
    · exact .above h
    · exact .top h

/-- A directory that parts without a separator lead to has no part with one. -/
theorem separator_not_mem {dir : List (List Char)}
    (h : Walk (linkDir link) (targetParts target) dir) : ∀ part ∈ dir, '/' ∉ part :=
  h.forall_mem (fun _ hpart => not_mem_of_mem_splitAt (List.dropLast_subset _ hpart))
    fun _ hpart _ => not_mem_of_mem_splitAt hpart

/-- **A link stands for the path that its target leads to** from its directory, if that lies inside
of the repository and below its top. -/
theorem resolves_linkTarget? (hlink : ∀ part ∈ splitAt '/' link, LeadsDown part)
    (htarget : trim target = target) : Resolves link target (linkTarget? link target) := by
  have hparts : targetParts target = splitAt '/' target := by rw [targetParts, htarget]
  have hdir : ∀ part ∈ linkDir link, LeadsDown part :=
    fun part hpart => hlink part (List.dropLast_subset _ hpart)
  have hnames : ∀ {dir}, Walk (linkDir link) (splitAt '/' target) dir →
      ∀ part ∈ dir, LeadsDown part := fun hwalk => hwalk.forall_mem hdir fun _ _ => id
  have hread : ∀ {dir}, dir ≠ [] → Walk (linkDir link) (splitAt '/' target) dir →
      splitAt '/' (['/'].intercalate dir) = dir := fun hne hwalk =>
    splitAt_intercalate hne (separator_not_mem (hparts.symm ▸ hwalk))
  refine ⟨?_, fun path => ?_, fun path h => ?_⟩
  · rw [linkTarget?_eq_none_iff, outside_iff, hparts]
    refine or_congr_right ?_
    by_cases hclimbs : Climbs (linkDir link).length (splitAt '/' target)
    · exact iff_of_true (.inl hclimbs) (.inl hclimbs)
    · exact or_congr_right (walk_top_iff hclimbs).symm
  · rw [linkTarget?_eq_some_iff, hparts]
    refine and_congr_right fun _ => ?_
    constructor
    · rintro ⟨dir, hne, hwalk, rfl⟩
      rwa [hread hne hwalk]
    · intro hwalk
      exact ⟨_, splitAt_ne_nil '/' path, hwalk, intercalate_splitAt '/' path⟩
  · obtain ⟨-, dir, hne, hwalk, rfl⟩ := linkTarget?_eq_some_iff.mp h
    rw [hparts] at hwalk
    rw [hread hne hwalk]
    exact ⟨hne, hnames hwalk⟩

end

/-- A link in a directory, with a target that goes up, stays and ends with a slash. -/
theorem resolves_sharedLink :
    (∀ part ∈ splitAt '/' "rules/link.yml".toList, LeadsDown part) ∧
      trim "..//shared/./a.yml/".toList = "..//shared/./a.yml/".toList ∧
      linkTarget? "rules/link.yml".toList "..//shared/./a.yml/".toList =
        some "shared/a.yml".toList ∧
      Walk ["rules".toList] (splitAt '/' "..//shared/./a.yml/".toList)
        ["shared".toList, "a.yml".toList] := by
  have hlink : ∀ part ∈ splitAt '/' "rules/link.yml".toList, LeadsDown part := by decide
  have htarget : trim "..//shared/./a.yml/".toList = "..//shared/./a.yml/".toList := by decide
  have hpath : linkTarget? "rules/link.yml".toList "..//shared/./a.yml/".toList =
      some "shared/a.yml".toList := by decide
  exact ⟨hlink, htarget, hpath, (((resolves_linkTarget? hlink htarget).some_iff _).mp hpath).2⟩

end RuleDelta

import RuleDelta.Discovery.SkipMarker
import RuleDelta.Proofs.Git.Runner
import RuleDelta.Proofs.Text.Split

/-!
# The search for a skip marker

The messages of the commits are read one by one, and no commit is looked at twice. `MarkerScan` says
once how the search can end: it passes over all commits, it finds a marker, or it meets a message
that cannot be read. `does_skipMarker?` says that the search does so, along `scanOrder`.

* `Plain` and `FirstMarker` are the messages without a marker and with one.
-/

namespace RuleDelta

open Run Text

/-! ## Markers -/

/-- The message has neither of the markers. -/
structure Plain (message : List Char) : Prop where
  withoutSkip : ¬"[skip ci]".toList <:+: message
  withoutNo : ¬"[no ci]".toList <:+: message

/-- The marker that counts of those in a message. -/
inductive FirstMarker (message : List Char) : String → Prop
  | skip (here : "[skip ci]".toList <:+: message) : FirstMarker message "[skip ci]"
  /-- The second marker counts only without the first. -/
  | no (withoutSkip : ¬"[skip ci]".toList <:+: message) (here : "[no ci]".toList <:+: message) :
      FirstMarker message "[no ci]"

theorem markerIn?_eq (message : List Char) : markerIn? message =
    if contains message "[skip ci]".toList then some "[skip ci]"
    else if contains message "[no ci]".toList then some "[no ci]" else none := by
  cases hskip : contains message "[skip ci]".toList <;>
    cases hno : contains message "[no ci]".toList <;>
      simp only [markerIn?, skipMarkers, List.find?, hskip, hno] <;> rfl

theorem markerIn?_eq_none_iff {message : List Char} :
    markerIn? message = none ↔ Plain message := by
  rw [markerIn?_eq]
  constructor
  · intro h
    split at h
    · cases h
    · rename_i hskip
      split at h
      · cases h
      · rename_i hno
        exact ⟨fun hmem => hskip (contains_iff.mpr hmem), fun hmem => hno (contains_iff.mpr hmem)⟩
  · rintro ⟨hskip, hno⟩
    rw [if_neg fun hmem => hskip (contains_iff.mp hmem),
      if_neg fun hmem => hno (contains_iff.mp hmem)]

theorem markerIn?_eq_some_iff {message : List Char} {marker : String} :
    markerIn? message = some marker ↔ FirstMarker message marker := by
  rw [markerIn?_eq]
  constructor
  · intro h
    split at h
    · rename_i hskip
      obtain rfl := Option.some.inj h
      exact .skip (contains_iff.mp hskip)
    · rename_i hskip
      split at h
      · rename_i hno
        obtain rfl := Option.some.inj h
        exact .no (fun hmem => hskip (contains_iff.mpr hmem)) (contains_iff.mp hno)
      · cases h
  · rintro (hskip | ⟨hskip, hno⟩)
    · rw [if_pos (contains_iff.mpr hskip)]
    · rw [if_neg fun hmem => hskip (contains_iff.mp hmem), if_pos (contains_iff.mpr hno)]

/-! ## The search -/

/-- The command that prints the message of a commit. -/
def messageCommand (commit : String) : List String :=
  ["show", "-s", "--format=%B", commit]

/-- The message of a commit can be read and has no marker. -/
def Unmarked (runner : GitRunner) (commit : String) : Prop :=
  ∃ output, runner (messageCommand commit) = .ok output ∧ Plain output.stdout

/-- The search for a marker among different commits, one by one: how it ends, and the commands that
it asks. -/
inductive MarkerScan (runner : GitRunner) :
    List String → Except Error (Option (String × String)) → List (List String) → Prop
  | nil : MarkerScan runner [] (.ok none) []
  | unmarked {commit : String} {commits : List String}
      {r : Except Error (Option (String × String))} {calls : List (List String)}
      (here : Unmarked runner commit) (rest : MarkerScan runner commits r calls) :
      MarkerScan runner (commit :: commits) r (messageCommand commit :: calls)
  | marked {commit marker : String} {output : GitOutput} (commits : List String)
      (answered : runner (messageCommand commit) = .ok output)
      (here : FirstMarker output.stdout marker) :
      MarkerScan runner (commit :: commits) (.ok (some (commit, marker))) [messageCommand commit]
  | unreadable {commit : String} {e : Error} (commits : List String)
      (refused : runner (messageCommand commit) = .error e) :
      MarkerScan runner (commit :: commits) (.error (.commitMessage commit e.message))
        [messageCommand commit]

namespace MarkerScan

variable {runner : GitRunner}

/-- Commits without a marker are passed over. -/
theorem append {front commits : List String} {r : Except Error (Option (String × String))}
    {calls : List (List String)} (hfront : ∀ commit ∈ front, Unmarked runner commit)
    (h : MarkerScan runner commits r calls) :
    MarkerScan runner (front ++ commits) r (front.map messageCommand ++ calls) := by
  induction front with
  | nil => exact h
  | cons commit front ih =>
    obtain ⟨hhere, hrest⟩ := List.forall_mem_cons.mp hfront
    exact .unmarked hhere (ih hrest)

end MarkerScan

theorem does_commitMessage (runner : GitRunner) (commit : String) :
    (commitMessage runner commit).Does ((runner (messageCommand commit)).map GitOutput.stdout)
      [messageCommand commit] [] := by
  have hgit := does_git runner (messageCommand commit)
  unfold commitMessage
  cases hanswer : runner (messageCommand commit) with
  | ok output =>
    rw [hanswer] at hgit
    exact hgit.bind (does_pure _)
  | error e =>
    rw [hanswer] at hgit
    exact hgit.bind_error

/-- **The search for a marker looks at the commits that it has not seen, each once**, by induction
on the commits that are left. -/
theorem does_findMarker {runner : GitRunner} {seen commits : List String}
    {r : Except Error (Option (String × String))} {calls : List (List String)}
    (h : MarkerScan runner (commits.filter fun c => !seen.contains c).eraseDups r calls) :
    (findMarker runner seen commits).Does r calls [] := by
  induction commits generalizing seen r calls with
  | nil =>
    cases h
    exact does_pure none
  | cons commit commits ih =>
    unfold findMarker
    by_cases hseen : seen.contains commit = true
    · rw [if_pos hseen]
      rw [List.filter_cons_of_neg (by simpa using hseen)] at h
      exact ih h
    · rw [if_neg hseen]
      rw [List.filter_cons_of_pos (by simpa using hseen), List.eraseDups_cons, List.filter_filter]
        at h
      have hmessage := (does_commitMessage runner commit).mapError fun e =>
        .commitMessage commit e.message
      cases h with
      | unmarked here rest =>
        obtain ⟨output, hanswer, hmarker⟩ := here
        have hfilter : (commits.filter fun c => !(c == commit) && !seen.contains c) =
            commits.filter fun c => !(commit :: seen).contains c :=
          List.filter_congr fun c _ => by rw [List.contains_cons, Bool.not_or]
        rw [hfilter] at rest
        rw [hanswer] at hmessage
        refine hmessage.bind ?_
        simp only [markerIn?_eq_none_iff.mpr hmarker]
        exact ih rest
      | marked _ answered here =>
        rw [answered] at hmessage
        refine hmessage.bind ?_
        simp only [markerIn?_eq_some_iff.mpr here]
        exact does_pure _
      | unreadable _ refused =>
        rw [refused] at hmessage
        exact hmessage.bind_error

/-- The commits that touch some files, each once, in the order in which their messages are read. -/
def scanOrder (files : List FileChange) : List String :=
  (files.flatMap FileChange.commits).eraseDups

theorem does_skipMarker? {runner : GitRunner} {files : List FileChange}
    {r : Except Error (Option (String × String))} {calls : List (List String)}
    (h : MarkerScan runner (scanOrder files) r calls) :
    (skipMarker? runner files).Does r calls [] := by
  refine does_findMarker ?_
  have hall : ((files.flatMap FileChange.commits).filter fun c => !([] : List String).contains c) =
      files.flatMap FileChange.commits := List.filter_eq_self.mpr fun _ _ => rfl
  rw [hall]
  exact h

/-- The search for a marker passes over all commits, or stops at the first that it cannot pass
over. -/
theorem unmarked_or (runner : GitRunner) (commits : List String) :
    (∀ c ∈ commits, Unmarked runner c) ∨ ∃ front commit back, commits = front ++ commit :: back ∧
      (∀ c ∈ front, Unmarked runner c) ∧ ((∃ e, runner (messageCommand commit) = .error e) ∨
        ∃ output marker, runner (messageCommand commit) = .ok output ∧
          FirstMarker output.stdout marker) := by
  induction commits with
  | nil => exact .inl (by simp)
  | cons commit commits ih =>
    cases hanswer : runner (messageCommand commit) with
    | error e => exact .inr ⟨[], commit, commits, rfl, by simp, .inl ⟨e, hanswer⟩⟩
    | ok output =>
      cases hmarker : markerIn? output.stdout with
      | some marker =>
        exact .inr ⟨[], commit, commits, rfl, by simp,
          .inr ⟨output, marker, hanswer, markerIn?_eq_some_iff.mp hmarker⟩⟩
      | none =>
        have hhere : Unmarked runner commit := ⟨output, hanswer, markerIn?_eq_none_iff.mp hmarker⟩
        rcases ih with hall | ⟨front, c, back, rfl, hfront, hstop⟩
        · exact .inl (List.forall_mem_cons.mpr ⟨hhere, hall⟩)
        · have hpassed := List.forall_mem_cons.mpr ⟨hhere, hfront⟩
          exact .inr ⟨commit :: front, c, back, rfl, hpassed, hstop⟩

end RuleDelta

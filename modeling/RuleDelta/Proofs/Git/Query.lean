import RuleDelta.Git.Change
import RuleDelta.Proofs.Git.Runner

/-!
# The commands behind a listing of changed files

A listing of changed files asks one command after the other, and which ones comes from the answers
to earlier ones. `changeQueries` are the commands that are asked of a runner when none of them is
refused. The run asks them in this order, up to the first one that is refused, and it fails with
that refusal (`follows_changes`).

* `Query` is a command with what refuses its answer;
* `firstRefusal?` is the first refusal among some queries, and `asked` are the commands up to it;
* `Run.Follows` says that a part of a run asks these queries and fails where they are refused.
-/

namespace RuleDelta

open Text

/-! ## Queries -/

/-- A command of git that is asked. -/
structure Query where
  args : List String
  /-- The error that an answer ends the run with, if it does. -/
  refusal? : Except Error GitOutput → Option Error

/-- The error that is there in place of a value. -/
def errorOf? {α : Type} : Except Error α → Option Error
  | .ok _ => none
  | .error e => some e

namespace Query

/-- A command that has to succeed. -/
def needed (args : List String) : Query :=
  ⟨args, errorOf?⟩

/-- A command that may fail. -/
def optional (args : List String) : Query :=
  ⟨args, fun _ => none⟩

/-- A command that has to succeed with an output that can be read. -/
def readable {α : Type} (args : List String) (read : GitOutput → Except Error α) : Query :=
  ⟨args, fun answer => errorOf? (answer.bind read)⟩

end Query

/-- The refusal of the first query that is refused. -/
def firstRefusal? (runner : GitRunner) : List Query → Option Error
  | [] => none
  | q :: qs =>
    match q.refusal? (runner q.args) with
    | some e => some e
    | none => firstRefusal? runner qs

/-- The commands up to the first query that is refused. -/
def asked (runner : GitRunner) : List Query → List (List String)
  | [] => []
  | q :: qs =>
    match q.refusal? (runner q.args) with
    | some _ => [q.args]
    | none => q.args :: asked runner qs

section

variable {runner : GitRunner} {ps qs : List Query}

theorem firstRefusal?_append :
    firstRefusal? runner (ps ++ qs) = (firstRefusal? runner ps).or (firstRefusal? runner qs) := by
  induction ps with
  | nil => rfl
  | cons p ps ih =>
    rw [List.cons_append, firstRefusal?, firstRefusal?, ih]
    cases p.refusal? (runner p.args) <;> rfl

theorem asked_append : asked runner (ps ++ qs) = asked runner ps ++
    if (firstRefusal? runner ps).isSome then [] else asked runner qs := by
  induction ps with
  | nil => simp [asked, firstRefusal?]
  | cons p ps ih =>
    rw [List.cons_append, asked, asked, firstRefusal?, ih]
    cases p.refusal? (runner p.args) <;> simp

theorem exists_of_mem_asked {args : List String} (h : args ∈ asked runner qs) :
    ∃ q ∈ qs, q.args = args := by
  induction qs with
  | nil => cases h
  | cons q qs ih =>
    unfold asked at h
    split at h
    · exact ⟨q, List.mem_cons_self, (List.mem_singleton.mp h).symm⟩
    · rcases List.mem_cons.mp h with rfl | h
      · exact ⟨q, List.mem_cons_self, rfl⟩
      · obtain ⟨q', hq', rfl⟩ := ih h
        exact ⟨q', List.mem_cons_of_mem q hq', rfl⟩

end

/-! ## Runs that ask queries -/

namespace Run

variable {α β : Type} {runner : GitRunner} {ps qs : List Query}

/-- The part of a run can return this. -/
def Gives (x : Run α) (a : α) : Prop :=
  ∃ calls events, x.Does (.ok a) calls events

/-- The part of a run asks these queries in this order up to the first one that is refused, and
fails with that refusal. It reports no event. -/
def Follows (runner : GitRunner) (x : Run α) (queries : List Query) : Prop :=
  ∃ r, x.Does r (asked runner queries) [] ∧ errorOf? r = firstRefusal? runner queries

theorem follows_pure (a : α) : (pure a : Run α).Follows runner [] :=
  ⟨_, does_pure a, rfl⟩

theorem asked_singleton (q : Query) : asked runner [q] = [q.args] := by
  unfold asked
  split <;> rfl

theorem firstRefusal?_singleton (q : Query) :
    firstRefusal? runner [q] = q.refusal? (runner q.args) := by
  unfold firstRefusal?
  cases q.refusal? (runner q.args) <;> rfl

theorem follows_git (args : List String) : (git runner args).Follows runner [.needed args] := by
  refine ⟨runner args, ?_, (firstRefusal?_singleton (.needed args)).symm⟩
  rw [asked_singleton]
  exact does_git runner args

theorem gives_git {args : List String} {output : GitOutput} (h : (git runner args).Gives output) :
    runner args = .ok output := by
  obtain ⟨calls, events, h⟩ := h
  exact ((does_git runner args).unique h).1.symm

/-- A sequence asks the queries of one part and then those of the other. -/
theorem Follows.bind {x : Run α} {f : α → Run β} (hx : x.Follows runner ps)
    (hf : ∀ a, x.Gives a → (f a).Follows runner qs) : (x >>= f).Follows runner (ps ++ qs) := by
  obtain ⟨r, hdoes, hrefusal⟩ := hx
  rw [Follows, asked_append, firstRefusal?_append, ← hrefusal]
  cases r with
  | ok a =>
    obtain ⟨r', hdoes', hrefusal'⟩ := hf a ⟨_, _, hdoes⟩
    exact ⟨r', by simpa [errorOf?] using hdoes.bind hdoes', hrefusal'⟩
  | error e =>
    exact ⟨.error e, by simpa [errorOf?] using hdoes.bind_error, rfl⟩

theorem Follows.does_ok {x : Run α} {a : α} (h : x.Follows runner ps) (hgives : x.Gives a) :
    x.Does (.ok a) (asked runner ps) [] := by
  obtain ⟨r, hdoes, -⟩ := h
  obtain ⟨calls, events, hgives⟩ := hgives
  obtain ⟨rfl, -, -⟩ := hdoes.unique hgives
  exact hdoes

theorem Follows.gives_of_ends {x : Run α} {a : α} {t t' : Trace} (h : x.Follows runner ps)
    (hends : x.Ends t (.ok a) t') : x.Gives a := by
  obtain ⟨r, hdoes, -⟩ := h
  obtain ⟨rfl, -, -⟩ := hdoes.of_ends hends
  exact ⟨_, _, hdoes⟩

theorem Follows.does_error {x : Run α} {e : Error} (h : x.Follows runner ps)
    (hrefused : firstRefusal? runner ps = some e) : x.Does (.error e) (asked runner ps) [] := by
  obtain ⟨r, hdoes, hrefusal⟩ := h
  cases r with
  | ok a => cases hrefusal.trans hrefused
  | error e' =>
    obtain rfl := Option.some.inj (hrefusal.trans hrefused)
    exact hdoes

/-- Something is returned, or one of the queries is refused. -/
theorem Follows.gives_or_refused {x : Run α} (h : x.Follows runner ps) :
    (∃ a, x.Gives a) ∨ ∃ e, firstRefusal? runner ps = some e := by
  obtain ⟨r, hdoes, hrefusal⟩ := h
  cases r with
  | ok a => exact .inl ⟨a, _, _, hdoes⟩
  | error e => exact .inr ⟨e, hrefusal.symm⟩

/-- What is returned behind the queries does not count. -/
theorem Follows.bind_pure {x : Run α} {f : α → β} (hx : x.Follows runner ps) :
    (x >>= fun a => pure (f a)).Follows runner ps := by
  have hbind : (x >>= fun a => pure (f a)).Follows runner (ps ++ []) :=
    hx.bind fun a _ => follows_pure (f a)
  rwa [List.append_nil] at hbind

/-- An output that is read at once is that of a readable query. -/
theorem does_read (args : List String) (read : GitOutput → Except Error α) :
    (git runner args >>= fun output => (liftExcept (read output) : Run α)).Does
      ((runner args).bind read) [args] [] := by
  have hgit := does_git runner args
  cases hanswer : runner args with
  | ok output =>
    rw [hanswer] at hgit
    exact hgit.bind (does_liftExcept (read output))
  | error e =>
    rw [hanswer] at hgit
    exact hgit.bind_error

theorem follows_read (args : List String) (read : GitOutput → Except Error α) :
    (git runner args >>= fun output => (liftExcept (read output) : Run α)).Follows runner
      [.readable args read] := by
  refine ⟨(runner args).bind read, ?_, (firstRefusal?_singleton (.readable args read)).symm⟩
  rw [asked_singleton]
  exact does_read args read

theorem follows_warn (message : String) (fields : List (String × String)) :
    (warn message fields).Follows runner [] :=
  ⟨_, does_warn message fields, rfl⟩

/-- A command whose failure is made up for may fail. -/
theorem follows_attempt {args : List String} {f : GitOutput → α} {handle : Error → Run α}
    (hhandle : ∀ e, ∃ a, (handle e).Does (.ok a) [] []) :
    (tryCatch (do return f (← git runner args)) handle).Follows runner [.optional args] := by
  rw [Follows, asked_singleton, firstRefusal?_singleton]
  have hgit := does_git runner args
  cases hanswer : runner args with
  | ok output =>
    rw [hanswer] at hgit
    exact ⟨_, (hgit.bind (does_pure (f output))).tryCatch_ok handle, rfl⟩
  | error e =>
    rw [hanswer] at hgit
    obtain ⟨a, ha⟩ := hhandle e
    exact ⟨_, hgit.bind_error.tryCatch_error ha, rfl⟩

end Run

/-! ## The queries of a listing -/

open Run

/-- The command that lists a path at a revision. -/
def treeCommand (revision path : String) : List String :=
  ["ls-tree", revision, "--", path]

/-- The command that prints the content of a path at a revision. -/
def blobCommand (revision path : String) : List String :=
  ["cat-file", "blob", s!"{revision}:{path}"]

/-- The path of the repository that a path at a revision is a link to. -/
def linkAt? (runner : GitRunner) (revision path : String) : Option String :=
  match runner (treeCommand revision path), runner (blobCommand revision path) with
  | .ok listing, .ok content =>
    if startsWith listing.stdout linkMode then
      (linkTarget? path.toList content.stdout).map String.ofList
    else none
  | _, _ => none

/-- A path is listed and printed. Behind a link the target is printed too, if it can be. -/
def pathQueries (runner : GitRunner) (revision path : String) : List Query :=
  [.needed (treeCommand revision path)] ++ ([.needed (blobCommand revision path)] ++
    ((linkAt? runner revision path).map fun target =>
      Query.optional (blobCommand revision target)).toList)

/-- A side that does not exist is not asked for. -/
def sideQueries (runner : GitRunner) (revision : String) (path? : Option String) : List Query :=
  match path? with
  | some path => pathQueries runner revision path
  | none => []

/-- Both sides of a file are read, the old one at the parent of the oldest commit and the new one at
the newest, and then its commits. -/
def fileQueries (runner : GitRunner) (range : CommitRange) (file : ChangedFile) : List Query :=
  sideQueries runner (range.oldest ++ "^") file.before? ++
    (sideQueries runner range.newest file.after? ++ [.needed (touchingCommand range file)])

/-- The files that the listing of a range has, if it can be read. -/
def listedFiles (runner : GitRunner) (range : CommitRange) : Except Error (List ChangedFile) :=
  (runner (diffCommand range "--name-status")).bind fun output =>
    ChangedFile.readFiles output.stdout

/-- The listing has to be one that can be read. Unless it is empty, the diff follows, and then one
file after the other. -/
def changeQueries (runner : GitRunner) (range : CommitRange) : List Query :=
  [.readable (diffCommand range "--name-status") fun output =>
    ChangedFile.readFiles output.stdout] ++
  match listedFiles runner range with
  | .ok (file :: files) => [.needed (diffCommand range "-U0")] ++
      (file :: files).flatMap (fileQueries runner range)
  | _ => []

section

variable {runner : GitRunner} {range : CommitRange}

theorem head?_touchingCommand (range : CommitRange) (file : ChangedFile) :
    (touchingCommand range file).head? = some "log" := by
  have hfold (more args : List String) (hargs : args.head? = some "log") :
      (more.foldl addArgument args).head? = some "log" := by
    induction more generalizing args with
    | nil => exact hargs
    | cons arg more ih =>
      refine ih (addArgument args arg) ?_
      unfold addArgument
      split
      · exact hargs
      · rw [List.head?_append, hargs]
        rfl
  exact hfold _ _ rfl

theorem head?_sideQueries {revision : String} {path? : Option String} {q : Query}
    (h : q ∈ sideQueries runner revision path?) : q.args.head? ≠ some "show" := by
  cases path? with
  | none => cases h
  | some path =>
    simp only [sideQueries, pathQueries, List.mem_append, List.mem_singleton, Option.mem_toList,
      Option.map_eq_some_iff] at h
    rcases h with rfl | rfl | ⟨target, -, rfl⟩ <;>
      simp [Query.needed, Query.optional, treeCommand, blobCommand]

/-- A listing of changed files shows no commit. -/
theorem head?_changeQueries {q : Query} (h : q ∈ changeQueries runner range) :
    q.args.head? ≠ some "show" := by
  have hfile : ∀ file, ∀ q ∈ fileQueries runner range file, q.args.head? ≠ some "show" := by
    intro file q hq
    simp only [fileQueries, List.mem_append, List.mem_singleton] at hq
    rcases hq with hq | hq | rfl
    · exact head?_sideQueries hq
    · exact head?_sideQueries hq
    · simp [Query.needed, head?_touchingCommand]
  unfold changeQueries at h
  rcases List.mem_append.mp h with h | h
  · rw [List.mem_singleton.mp h]
    simp [Query.readable, diffCommand]
  · split at h
    · rcases List.mem_append.mp h with h | h
      · rw [List.mem_singleton.mp h]
        simp [Query.needed, diffCommand]
      · obtain ⟨file, -, hq⟩ := List.mem_flatMap.mp h
        exact hfile file q hq
    · cases h

theorem follows_readPath (revision path : String) :
    (readPath runner revision path).Follows runner (pathQueries runner revision path) := by
  unfold readPath pathQueries
  refine (follows_git _).bind fun listing hlisting => ?_
  refine (follows_git _).bind fun content hcontent => ?_
  have hlink : linkAt? runner revision path = if startsWith listing.stdout linkMode then
      (linkTarget? path.toList content.stdout).map String.ofList else none := by
    have hlisting := gives_git hlisting
    have hcontent := gives_git hcontent
    unfold linkAt? treeCommand blobCommand
    rw [hlisting, hcontent]
  rw [hlink]
  by_cases hmode : startsWith listing.stdout linkMode = true
  · simp only [hmode, Bool.not_true, Bool.false_eq_true, if_false, if_true]
    cases linkTarget? path.toList content.stdout with
    | none => exact (follows_warn _ _).bind fun _ _ => follows_pure _
    | some target =>
      exact follows_attempt fun e =>
        ⟨(⟨path, some (String.ofList target)⟩, []), (does_warn _ _).bind (does_pure _)⟩
  · simp only [hmode, Bool.not_false, if_true, Bool.false_eq_true, if_false]
    exact follows_pure _

theorem follows_readSide (revision : String) (path? : Option String) (other : String) :
    (readSide runner revision path? other).Follows runner
      (sideQueries runner revision path?) := by
  cases path? with
  | some path => exact follows_readPath revision path
  | none => exact follows_pure _

theorem follows_readChange (file : ChangedFile) (added : List Nat) :
    (readChange runner range file added).Follows runner (fileQueries runner range file) := by
  refine (follows_readSide _ _ _).bind fun ⟨before, bodyBefore⟩ _ => ?_
  refine (follows_readSide _ _ _).bind fun ⟨after, bodyAfter⟩ _ => ?_
  exact ((follows_git _).bind_pure).bind_pure

theorem follows_readChanges (table : List (String × List Nat)) (files : List ChangedFile) :
    (readChanges runner range table files).Follows runner
      (files.flatMap (fileQueries runner range)) := by
  induction files generalizing table with
  | nil => exact follows_pure _
  | cons file rest ih =>
    rw [List.flatMap_cons]
    exact (follows_readChange file _).bind fun change _ => (ih _).bind_pure

/-- **A listing of changed files asks its queries in order**, up to the first one that is refused,
and fails with that refusal. -/
theorem follows_changes : (changes runner range).Follows runner (changeQueries runner range) := by
  unfold changes
  rw [← bind_assoc]
  refine (follows_read _ fun output => ChangedFile.readFiles output.stdout).bind
    fun files ⟨calls, events, hfiles⟩ => ?_
  have hlisted : listedFiles runner range = .ok files :=
    (hfiles.unique (does_read _ fun output => ChangedFile.readFiles output.stdout)).1
  rw [hlisted]
  cases files with
  | nil => exact follows_pure _
  | cons file files =>
    exact (follows_git _).bind fun diff _ => follows_readChanges _ _

end

end RuleDelta

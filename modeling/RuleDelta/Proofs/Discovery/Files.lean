import RuleDelta.Discovery.Finder
import RuleDelta.Proofs.Git.Runner

/-!
# What becomes of the changed files

A changed file has entries and events (`Finder.Yields`), or it ends the run (`Finder.Refuses`); one
of the two holds of every file (`yields_or_refuses`). From it, `Finder.YieldsAll` are the entries
and the events of several files, up to the first that ends the run.
-/

namespace RuleDelta

open Run

namespace Finder

variable {f : Finder} {change : FileChange} {e : Error}

/-- How the old side of a file is read. -/
def beforeMode (f : Finder) (change : FileChange) : ParseMode :=
  if f.relaxed.matchesAny change.before.name then .lenient else .strict

/-- The answer of the parser for the old side of a file. -/
def parseBefore (f : Finder) (change : FileChange) : Except ParseFailure (List Entry) :=
  f.parser change.before.effective change.before.name change.bodyBefore (f.beforeMode change)

/-- The answer of the parser for the new side of a file. -/
def parseAfter (f : Finder) (change : FileChange) : Except ParseFailure (List Entry) :=
  f.parser change.after.effective change.after.name change.bodyAfter .strict

/-- These are the rules of the old side of a file. A side that is refused has none. -/
def HasBefore (f : Finder) (change : FileChange) (before : List Entry) : Prop :=
  f.parseBefore change = .ok before ∨
    (∃ error, f.parseBefore change = .error (.refused error)) ∧ before = []

/-- A changed file has these entries and is reported with these events. -/
inductive Yields (f : Finder) (change : FileChange) : List Entry → List Event → Prop
  /-- The patterns leave the file out. -/
  | skipped (left : f.filter.allows change.after.name = false) :
      f.Yields change [] [.fileSkipped change.after.name]
  /-- The rules of both sides are paired and classified. -/
  | read {before after : List Entry} (allowed : f.filter.allows change.after.name = true)
      (old : f.HasBefore change before) (new : f.parseAfter change = .ok after) :
      f.Yields change (classifyAll change before after)
        ((pairEntries before after).map (classifyEvent change))

/-- A changed file ends a run. -/
inductive Refuses (f : Finder) (change : FileChange) : Error → Prop
  /-- The new side is refused. -/
  | refused {before : List Entry} {error : ParseError}
      (allowed : f.filter.allows change.after.name = true) (old : f.HasBefore change before)
      (new : f.parseAfter change = .error (.refused error)) :
      f.Refuses change (.invalidSyntax error)
  /-- The parser breaks down on one of the sides. -/
  | broken (allowed : f.filter.allows change.after.name = true)
      (broken : f.parseBefore change = .error .broken ∨
        (∃ before, f.HasBefore change before) ∧ f.parseAfter change = .error .broken) :
      f.Refuses change .broken

theorem readBefore_eq (f : Finder) (change : FileChange) :
    f.readBefore change = match f.parseBefore change with
      | .ok entries => pure entries
      | .error (.refused _) => pure []
      | .error .broken => throw .broken := rfl

theorem does_readBefore {before : List Entry} (h : f.HasBefore change before) :
    (f.readBefore change).Does (.ok before) [] [] := by
  rw [readBefore_eq]
  rcases h with hparse | ⟨⟨error, hparse⟩, rfl⟩
  · rw [hparse]
    exact does_pure before
  · rw [hparse]
    exact does_pure []

theorem does_readBefore_broken (h : f.parseBefore change = .error .broken) :
    (f.readBefore change).Does (.error .broken) [] [] := by
  rw [readBefore_eq, h]
  exact does_throw .broken

theorem readAfter_eq (f : Finder) (change : FileChange) :
    f.readAfter change = match f.parseAfter change with
      | .ok entries => pure entries
      | .error (.refused e) => throw (.invalidSyntax e)
      | .error .broken => throw .broken := rfl

theorem does_classifyPairings (ps : List Pairing) :
    (classifyPairings change ps).Does (.ok (ps.filterMap (classify change))) []
      (ps.map (classifyEvent change)) := by
  induction ps with
  | nil => exact does_pure []
  | cons p ps ih =>
    have hcons : (p :: ps).filterMap (classify change) =
        (classify change p).toList ++ ps.filterMap (classify change) := by
      cases hp : classify change p <;> simp [hp]
    rw [hcons]
    exact (does_emit (classifyEvent change p)).bind (ih.bind_pure _)

/-- A file whose path counts is read side by side. -/
theorem readFile_of_allowed (h : f.filter.allows change.after.name = true) :
    f.readFile change = f.readBefore change >>= fun before =>
      f.readAfter change >>= fun after => classifyPairings change (pairEntries before after) := by
  simp [readFile, h]

theorem Yields.does {entries : List Entry} {events : List Event}
    (h : f.Yields change entries events) : (f.readFile change).Does (.ok entries) [] events := by
  cases h with
  | skipped left =>
    unfold readFile
    rw [left, if_pos (by rfl)]
    exact (does_emit (.fileSkipped change.after.name)).bind (does_pure [])
  | @read before after allowed old new =>
    rw [readFile_of_allowed allowed, readAfter_eq, new]
    exact (does_readBefore old).bind ((does_pure after).bind (does_classifyPairings _))

theorem Refuses.does (h : f.Refuses change e) : (f.readFile change).Does (.error e) [] [] := by
  cases h with
  | @refused before error allowed old new =>
    rw [readFile_of_allowed allowed, readAfter_eq, new]
    exact (does_readBefore old).bind (does_throw (.invalidSyntax error)).bind_error
  | broken allowed broken =>
    rw [readFile_of_allowed allowed]
    rcases broken with hbefore | ⟨⟨before, hbefore⟩, hafter⟩
    · exact (does_readBefore_broken hbefore).bind_error
    · rw [readAfter_eq, hafter]
      exact (does_readBefore hbefore).bind (does_throw .broken).bind_error

/-- The old side has rules, unless the parser breaks down on it. -/
theorem hasBefore_or_broken (f : Finder) (change : FileChange) :
    (∃ before, f.HasBefore change before) ∨ f.parseBefore change = .error .broken := by
  match h : f.parseBefore change with
  | .ok before => exact .inl ⟨before, .inl h⟩
  | .error (.refused error) => exact .inl ⟨[], .inr ⟨⟨error, h⟩, rfl⟩⟩
  | .error .broken => exact .inr rfl

theorem yields_or_refuses (f : Finder) (change : FileChange) :
    (∃ entries events, f.Yields change entries events) ∨ ∃ e, f.Refuses change e := by
  by_cases hallowed : f.filter.allows change.after.name = true
  · rcases f.hasBefore_or_broken change with ⟨before, hbefore⟩ | hbroken
    · match hafter : f.parseAfter change with
      | .ok after => exact .inl ⟨_, _, .read hallowed hbefore hafter⟩
      | .error (.refused error) => exact .inr ⟨_, .refused hallowed hbefore hafter⟩
      | .error .broken => exact .inr ⟨_, .broken hallowed (.inr ⟨⟨before, hbefore⟩, hafter⟩)⟩
    · exact .inr ⟨_, .broken hallowed (.inl hbroken)⟩
  · exact .inl ⟨_, _, .skipped (by simpa using hallowed)⟩

/-- Some changed files have these entries and are reported with these events, one file after the
other. -/
inductive YieldsAll (f : Finder) : List FileChange → List Entry → List Event → Prop
  | nil : f.YieldsAll [] [] []
  | cons {change : FileChange} {rest : List FileChange} {here others : List Entry}
      {events later : List Event} (first : f.Yields change here events)
      (next : f.YieldsAll rest others later) :
      f.YieldsAll (change :: rest) (here ++ others) (events ++ later)

theorem YieldsAll.does {files : List FileChange} {entries : List Entry} {events : List Event}
    (h : f.YieldsAll files entries events) : (f.readFiles files).Does (.ok entries) [] events := by
  induction h with
  | nil => exact does_pure []
  | cons first _ ih => exact first.does.bind (ih.bind_pure _)

/-- A file ends a run behind the files before it. -/
theorem YieldsAll.does_refused {files back : List FileChange} {entries : List Entry}
    {events : List Event} (h : f.YieldsAll files entries events) (hrefuses : f.Refuses change e) :
    (f.readFiles (files ++ change :: back)).Does (.error e) [] events := by
  induction h with
  | nil => exact hrefuses.does.bind_error
  | cons first _ ih => exact first.does.bind ih.bind_error

/-- All files have entries, or one of them is the first that ends the run. -/
theorem yieldsAll_or_refused (f : Finder) (files : List FileChange) :
    (∃ entries events, f.YieldsAll files entries events) ∨
      ∃ front change back entries events e, files = front ++ change :: back ∧
        f.YieldsAll front entries events ∧ f.Refuses change e := by
  induction files with
  | nil => exact .inl ⟨_, _, .nil⟩
  | cons change rest ih =>
    rcases f.yields_or_refuses change with ⟨here, events, hhere⟩ | ⟨e, he⟩
    · rcases ih with ⟨others, later, hrest⟩ | ⟨front, c, back, others, later, e, rfl, hfront, he⟩
      · exact .inl ⟨_, _, .cons hhere hrest⟩
      · exact .inr ⟨change :: front, c, back, _, _, e, rfl, .cons hhere hfront, he⟩
    · exact .inr ⟨[], change, rest, [], [], e, rfl, .nil, he⟩

end Finder

end RuleDelta

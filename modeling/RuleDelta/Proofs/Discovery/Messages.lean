import Mathlib.Data.List.Count
import RuleDelta.Proofs.Discovery.Outcome
import RuleDelta.Proofs.FirstOccurrence

/-!
# The messages that a discovery reads

A run reads the messages of the commits that touch the changed files in the order in which the
commits first come up, each once, up to the first message that it cannot read or that has a marker.
With a marker the run ends there, and neither the parser nor the links have any part in it.

* `FirstSeen` is the order, and `firstSeen_scanOrder` says that the commits are looked at in it;
* `ScanEnds` says how the search for a marker can end, in terms of the texts of the messages;
* `Finder.ScansMessages` is what this means for a run, and `scansMessages` the result.
-/

namespace RuleDelta

open Run Text

/-! ## The order of the commits -/

/-- The elements of a list, each once, in the order in which they first come up. -/
structure FirstSeen (all order : List String) : Prop where
  mem_iff : ∀ c, c ∈ order ↔ c ∈ all
  ascending : order.Pairwise fun c d => all.idxOf c < all.idxOf d

theorem FirstSeen.nodup {all order : List String} (h : FirstSeen all order) : order.Nodup :=
  h.ascending.imp fun hlt heq => by
    subst heq
    exact Nat.lt_irrefl _ hlt

/-- **The commits are looked at in the order in which they first come up.** -/
theorem firstSeen_scanOrder (files : List FileChange) :
    FirstSeen (files.flatMap FileChange.commits) (scanOrder files) where
  mem_iff _ := List.mem_eraseDups
  ascending := pairwise_idxOf_eraseDups _

/-! ## The search -/

section Scan

variable {runner : GitRunner} {commits : List String}

/-- How the search for a marker among different commits can end: its result, and the commits whose
messages are read. -/
inductive ScanEnds (runner : GitRunner) (commits : List String) :
    Except Error (Option (String × String)) → List String → Prop
  /-- All messages can be read, and none has a marker. -/
  | passed (plain : ∀ c ∈ commits, Unmarked runner c) :
      ScanEnds runner commits (.ok none) commits
  /-- A message has a marker, and those of the commits in front of it have none. -/
  | marked {front back : List String} {commit marker : String} {output : GitOutput}
      (order : commits = front ++ commit :: back) (plain : ∀ c ∈ front, Unmarked runner c)
      (answered : runner (messageCommand commit) = .ok output)
      (first : FirstMarker output.stdout marker) :
      ScanEnds runner commits (.ok (some (commit, marker))) (front ++ [commit])
  /-- A message cannot be read, and those of the commits in front of it have no marker. -/
  | unreadable {front back : List String} {commit : String} {e : Error}
      (order : commits = front ++ commit :: back) (plain : ∀ c ∈ front, Unmarked runner c)
      (refused : runner (messageCommand commit) = .error e) :
      ScanEnds runner commits (.error (.commitMessage commit e.message)) (front ++ [commit])

theorem exists_scanEnds (runner : GitRunner) (commits : List String) :
    ∃ r read, ScanEnds runner commits r read := by
  rcases unmarked_or runner commits with
    hplain | ⟨front, commit, back, rfl, hplain, ⟨e, he⟩ | ⟨output, marker, hread, hmarker⟩⟩
  · exact ⟨_, _, .passed hplain⟩
  · exact ⟨_, _, .unreadable rfl hplain he⟩
  · exact ⟨_, _, .marked rfl hplain hread hmarker⟩

variable {r : Except Error (Option (String × String))} {read : List String}

/-- The messages are read up to some commit. -/
theorem ScanEnds.read_prefix (h : ScanEnds runner commits r read) : read <+: commits := by
  cases h with
  | passed => exact List.prefix_rfl
  | @marked front back commit _ _ order =>
    rw [order]
    exact ⟨back, by simp⟩
  | @unreadable front back commit _ order =>
    rw [order]
    exact ⟨back, by simp⟩

/-- **The search for a marker ends as it can**, along the order of the commits. -/
theorem ScanEnds.does {files : List FileChange} (h : ScanEnds runner (scanOrder files) r read) :
    (skipMarker? runner files).Does r (read.map messageCommand) [] := by
  refine does_skipMarker? ?_
  cases h with
  | passed plain =>
    simpa using MarkerScan.append plain .nil
  | marked order plain answered first =>
    rw [order, List.map_append]
    exact .append plain (.marked _ answered first)
  | unreadable order plain refused =>
    rw [order, List.map_append]
    exact .append plain (.unreadable _ refused)

end Scan

/-! ## The commands of a run -/

theorem messageCommand_injective : Function.Injective messageCommand := fun c d h => by
  simpa [messageCommand] using h

namespace Finder

variable {f : Finder} {range : CommitRange} {files : List FileChange}

/-- A run asks for the message of a commit only when it searches for a marker. -/
theorem count_messageCalls (f : Finder) (range : CommitRange) (commits : List String)
    (c : String) : (f.messageCalls range commits).count (messageCommand c) = commits.count c := by
  have hlisting : messageCommand c ∉ f.listingCalls range := by
    intro hmem
    rcases List.mem_cons.mp hmem with heq | hasked
    · simp [messageCommand, rangeCommand] at heq
    · obtain ⟨q, hq, hargs⟩ := exists_of_mem_asked hasked
      refine head?_changeQueries hq ?_
      rw [hargs]
      rfl
  rw [messageCalls, List.count_append, List.count_eq_zero.mpr hlisting, Nat.zero_add,
    List.count_map_of_injective _ _ messageCommand_injective]

/-! ## Readers -/

/-- The finder with another parser and another resolver of links. -/
def withReaders (f : Finder) (parser : RuleParser) (resolver : AliasResolver) : Finder :=
  { f with parser, resolver }

/-- **With a marker the parser and the links have no part in a run.** -/
theorem find_withReaders {commit marker : String} {calls : List (List String)}
    (hlists : f.Lists range files)
    (hmarked : (skipMarker? f.runner files).Does (.ok (some (commit, marker))) calls [])
    (parser : RuleParser) (resolver : AliasResolver) (t : Trace) :
    (f.withReaders parser resolver).find.outcome t = f.find.outcome t := by
  rw [find_eq, find_eq]
  refine outcome_bind_congr fun _ s _ => ?_
  refine outcome_bind_congr fun range' s₁ hrange => ?_
  obtain ⟨hsame, -, -⟩ := (does_readRange hlists.takes.resolves hlists.takes.few).of_ends hrange
  obtain rfl := Except.ok.inj hsame
  refine outcome_bind_congr fun files' s₂ hfiles => ?_
  obtain ⟨calls, events, hgives⟩ := hlists.gives
  obtain ⟨hsame, -, -⟩ := hgives.of_ends (returns_mapError.mp hfiles)
  obtain rfl := Except.ok.inj hsame
  refine outcome_bind_congr fun found s₃ hfound => ?_
  obtain ⟨hsame, -, -⟩ := hmarked.of_ends hfound
  obtain rfl := Except.ok.inj hsame
  rfl

/-! ## Events of changed files -/

theorem YieldsAll.not_mem_events {entries : List Entry} {events : List Event}
    (h : f.YieldsAll files entries events) (commit marker : String) :
    .skipMarkerFound commit marker ∉ events := by
  induction h with
  | nil => exact List.not_mem_nil
  | cons first _ ih =>
    rw [List.mem_append, not_or]
    refine ⟨?_, ih⟩
    cases first with
    | skipped => simp
    | read =>
      intro hmem
      obtain ⟨p, -, hp⟩ := List.mem_map.mp hmem
      unfold classifyEvent at hp
      split at hp <;> cases hp

/-! ## A run and its messages -/

/-- How a run reads the messages of its commits, and what it does with them. -/
structure ScansMessages (f : Finder) : Prop where
  /-- The commits of the changed files are put into the order in which they first come up. -/
  order : ∀ files, FirstSeen (files.flatMap FileChange.commits) (scanOrder files)
  /-- The search for a marker asks for their messages in this order, up to the first one that cannot
  be read or that has a marker. -/
  scan : ∀ files, ∃ r read, ScanEnds f.runner (scanOrder files) r read ∧
    (skipMarker? f.runner files).Does r (read.map messageCommand) []
  /-- A run asks for the message of a commit once if it does. -/
  once : ∀ range files r read, ScanEnds f.runner (scanOrder files) r read →
    ∀ c, (f.messageCalls range read).count (messageCommand c) = if c ∈ read then 1 else 0
  /-- With a marker a run returns nothing, and the marker is the last thing that it reports. -/
  marked : ∀ range files commit marker read, f.Lists range files →
    ScanEnds f.runner (scanOrder files) (.ok (some (commit, marker))) read →
    f.find.Does (.ok []) (f.messageCalls range read)
      (f.opening range ++ [.skipMarkerFound commit marker])
  /-- With a marker a run does the same with any parser and any links: it makes no use of them. -/
  untouched : ∀ range files commit marker read, f.Lists range files →
    ScanEnds f.runner (scanOrder files) (.ok (some (commit, marker))) read →
    ∀ parser resolver t, (f.withReaders parser resolver).find.outcome t = f.find.outcome t
  /-- With a message that cannot be read a run fails. -/
  unreadable : ∀ range files e read, f.Lists range files →
    ScanEnds f.runner (scanOrder files) (.error e) read →
    f.find.Does (.error e) (f.messageCalls range read) (f.opening range)
  /-- Without a marker a run asks for all messages, and it reports no marker. -/
  passed : ∀ range files read, f.Lists range files →
    ScanEnds f.runner (scanOrder files) (.ok none) read → read = scanOrder files ∧
      ∃ r events, f.find.Does r (f.messageCalls range (scanOrder files))
        (f.opening range ++ events) ∧ ∀ commit marker, .skipMarkerFound commit marker ∉ events

/-- Without a marker a run goes on with its changed files. -/
theorem exists_does_of_reaches (h : f.Reaches range files) :
    ∃ r events, f.find.Does r (f.messageCalls range (scanOrder files))
      (f.opening range ++ events) ∧ ∀ commit marker, .skipMarkerFound commit marker ∉ events := by
  rcases f.yieldsAll_or_refused files with
    ⟨entries, events, hyields⟩ | ⟨front, change, back, entries, events, e, rfl, hyields, he⟩
  · cases hresolver : f.resolver entries with
    | error e =>
      exact ⟨_, events, (Outcome.unresolved h hyields hresolver).does, hyields.not_mem_events⟩
    | ok aliases =>
      have hdoes := (Outcome.found h hyields hresolver).does
      rw [List.append_assoc] at hdoes
      refine ⟨_, _, hdoes, fun commit marker hmem => ?_⟩
      rcases List.mem_append.mp hmem with hmem | hmem
      · exact hyields.not_mem_events commit marker hmem
      · obtain ⟨a, -, ha⟩ := List.mem_map.mp hmem
        cases ha
  · exact ⟨_, events, (Outcome.refused h hyields he).does, hyields.not_mem_events⟩

/-- **A run reads the messages of its commits in order, each once, up to the first that decides.** -/
theorem scansMessages (f : Finder) : f.ScansMessages where
  order := firstSeen_scanOrder
  scan files := by
    obtain ⟨r, read, hends⟩ := exists_scanEnds f.runner (scanOrder files)
    exact ⟨r, read, hends, hends.does⟩
  once range files r read hends c := by
    have hnodup : read.Nodup :=
      (firstSeen_scanOrder files).nodup.sublist hends.read_prefix.sublist
    rw [count_messageCalls, hnodup.count]
  marked range files commit marker read hlists hends := by
    cases hends with
    | marked order plain answered first =>
      exact (Outcome.marked hlists order plain answered first).does
  untouched range files commit marker read hlists hends := find_withReaders hlists hends.does
  unreadable range files e read hlists hends := by
    cases hends with
    | unreadable order plain refused =>
      exact (Outcome.unreadable hlists order plain refused).does
  passed range files read hlists hends := by
    cases hends with
    | passed plain =>
      exact ⟨rfl, exists_does_of_reaches ⟨hlists, plain⟩⟩

end Finder

/-! ## A run that stops -/

/-- Three commits touch a new file. The message of the second has both markers, and that of the last
cannot be read. -/
def markedRunner : GitRunner
  | ["show", _, _, "c"] => .ok (.ofText "some rules".toList)
  | ["show", _, _, "d"] => .ok (.ofText "more [no ci] [skip ci]".toList)
  | "show" :: _ => .error (.git "bad object")
  | "log" :: _ => .ok (.ofText "c\nd\nc\ne".toList)
  | [_, _, _, "--name-status", _, _, _, _] => .ok (.ofText "A\ta".toList)
  | _ => .ok (.ofText [])

/-- A finder for that file. -/
def markedFinder : Finder where
  runner := markedRunner
  parser := RuleFile.parse
  resolver := noAliases
  baseBranch := "main"
  maxCommits := 20
  filter := ⟨[], []⟩
  relaxed := []

/-- The range of those commits. -/
def markedRange : CommitRange :=
  ⟨"c", "e", ["c", "d", "c", "e"]⟩

/-- The new file, which is empty. -/
def markedChange : FileChange where
  before := ⟨"a", none⟩
  after := ⟨"a", none⟩
  bodyBefore := []
  bodyAfter := []
  modifiedLines := []
  commits := ["c", "d", "c", "e"]

theorem markedFinder_lists : markedFinder.Lists markedRange [markedChange] := by
  have hrange : markedFinder.Resolves markedRange :=
    ⟨⟨_, rfl, by decide +kernel⟩, rfl, rfl⟩
  have hchanges : ((changes markedRunner markedRange).outcome .start).1.toOption =
      some [markedChange] := by
    decide +kernel
  exact ⟨⟨hrange, by decide⟩, follows_changes.gives_of_ends (ends_of_toOption hchanges)⟩

/-- The run stops at the second commit, with the first marker of the list, and it does not meet the
message that cannot be read. -/
theorem scansMessages_markedFinder :
    ScanEnds markedRunner (scanOrder [markedChange]) (.ok (some ("d", "[skip ci]"))) ["c", "d"] ∧
      markedFinder.find.Does (.ok []) (markedFinder.messageCalls markedRange ["c", "d"])
        [.started "main", .commitRangeResolved "c" "e" 4, .skipMarkerFound "d" "[skip ci]"] := by
  have hends : ScanEnds markedRunner (scanOrder [markedChange]) (.ok (some ("d", "[skip ci]")))
      ["c", "d"] := by
    have horder : scanOrder [markedChange] = ["c"] ++ "d" :: ["e"] := by decide +kernel
    have hplain : ∀ c ∈ ["c"], Unmarked markedRunner c := by
      rw [List.forall_mem_singleton]
      exact ⟨_, rfl, markerIn?_eq_none_iff.mp (by decide +kernel)⟩
    exact .marked horder hplain rfl (markerIn?_eq_some_iff.mp (by decide +kernel))
  exact ⟨hends, (Finder.scansMessages markedFinder).marked _ _ _ _ _ markedFinder_lists hends⟩

end RuleDelta

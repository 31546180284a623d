import Mathlib
import RuleDelta.CommandLine.Discover
import RuleDelta.Event.Sink
import RuleDelta.Proofs.Json.Compact
import RuleDelta.Proofs.Text.Rows
import RuleDelta.Proofs.Text.Split

/-!
# Files of records

A file of records is cut at its line feeds into the records of the events, one for each in their
order, and a record tells its event and its time. So nobody has to guess what a file of records
says, whatever stands in the names, paths and branches of the events.

* `Event.untimed_inj` is the record of a single event, its time aside;
* `recordAll` is what a file takes, and `records_unambiguous` what that says about the events,
  whatever writes the records.
-/

namespace RuleDelta

open Text

/-! ## One record -/

theorem ChangeState.name_injective {s t : ChangeState} (h : s.name = t.name) : s = t := by
  cases s <;> cases t <;> simp_all [ChangeState.name]

theorem LineRange.json_injective {r s : LineRange} (h : r.json = s.json) : r = s := by
  simp only [LineRange.json, JsonValue.object.injEq, List.cons.injEq, Prod.mk.injEq,
    JsonValue.number.injEq, true_and, and_true] at h
  exact LineRange.ext h.1 h.2

namespace Event

/-- The fields of the record of an event without its time, in no order. -/
def untimedFields (e : Event) : List (String × JsonValue) :=
  e.fields ++ [("event", .string e.tag)]

/-- The fields of a record at a time without the time. -/
def untimed (time : String) (e : Event) : List (String × JsonValue) :=
  (e.recordFields time).filter fun f => f.1 ≠ "ts"

theorem recordFields_perm (time : String) (e : Event) :
    (e.recordFields time).Perm (e.untimedFields ++ [("ts", .string time)]) := by
  rw [recordFields, untimedFields, List.append_assoc]
  exact List.mergeSort_perm _ _

/-- No field of an event has the key of the time. -/
theorem key_ne_ts (e : Event) : ∀ f ∈ e.untimedFields, f.1 ≠ "ts" := by
  cases e <;> simp [untimedFields, fields]

theorem untimed_perm (time : String) (e : Event) : (e.untimed time).Perm e.untimedFields := by
  have hkeys : e.untimedFields.filter (fun f => f.1 ≠ "ts") = e.untimedFields :=
    List.filter_eq_self.mpr fun f hf => decide_eq_true (e.key_ne_ts f hf)
  have hfilter := (e.recordFields_perm time).filter fun f => f.1 ≠ "ts"
  rw [List.filter_append, hkeys] at hfilter
  exact List.append_nil e.untimedFields ▸ hfilter

theorem nodup_keys (e : Event) : (e.untimedFields.map Prod.fst).Nodup := by
  cases e <;> simp [untimedFields, fields]

/-- The kind of an event gives the keys of its record. -/
theorem keys_eq_of_tag_eq {e e' : Event} (h : e.tag = e'.tag) :
    e.untimedFields.map Prod.fst = e'.untimedFields.map Prod.fst := by
  cases e <;> cases e' <;> simp_all [tag, untimedFields, fields]

/-- An event is given by its kind and its fields. -/
theorem eq_of_tag_eq_of_fields_eq {e e' : Event} (htag : e.tag = e'.tag)
    (hfields : e.fields = e'.fields) : e = e' := by
  have hnumber : Function.Injective JsonValue.number := fun _ _ => JsonValue.number.inj
  cases e <;> cases e' <;>
    simp_all [tag, fields, hnumber.list_map.eq_iff, JsonValue.array.injEq]
  exact ⟨ChangeState.name_injective hfields.2.1, LineRange.json_injective hfields.2.2.2.1⟩

/-- Fields that are the same up to their order, with the same distinct keys in the same order, are
the same. -/
theorem eq_of_perm_of_keys_eq {l l' : List (String × JsonValue)} (hperm : l.Perm l')
    (hkeys : l.map Prod.fst = l'.map Prod.fst) (hnodup : (l.map Prod.fst).Nodup) : l = l' := by
  refine List.ext_getElem hperm.length_eq fun i hi hi' => ?_
  refine List.inj_on_of_nodup_map hnodup (List.getElem_mem hi)
    (hperm.mem_iff.mpr (List.getElem_mem hi')) ?_
  have hkey := congrArg (fun keys => keys[i]?) hkeys
  simpa [hi, hi'] using hkey

/-- A field that two records share up to order has the same value in both. -/
theorem value_eq_of_perm {l l' : List (String × JsonValue)} (hperm : l.Perm l')
    (hnodup : (l.map Prod.fst).Nodup) (key : String) {v v' : JsonValue} (h : (key, v) ∈ l)
    (h' : (key, v') ∈ l') : v = v' :=
  congrArg Prod.snd (List.inj_on_of_nodup_map hnodup h (hperm.mem_iff.mpr h') rfl)

theorem eq_of_untimedFields_perm {e e' : Event} (h : e.untimedFields.Perm e'.untimedFields) :
    e = e' := by
  have htag : e.tag = e'.tag := by
    have hvalue := value_eq_of_perm h e.nodup_keys "event" List.mem_concat_self
      List.mem_concat_self
    exact JsonValue.string.inj hvalue
  have hfields := eq_of_perm_of_keys_eq h (keys_eq_of_tag_eq htag) e.nodup_keys
  exact eq_of_tag_eq_of_fields_eq htag (List.append_inj_left' hfields rfl)

theorem pairwise_recordFields (time : String) (e : Event) :
    (e.recordFields time).Pairwise fun f g => f.1 ≤ g.1 := by
  have hpairs := @List.pairwise_mergeSort (String × JsonValue) (fun f g => f.1 ≤ g.1)
    (fun a b c hab hbc => decide_eq_true
      (String.le_trans (of_decide_eq_true hab) (of_decide_eq_true hbc)))
    (fun a b => by simpa using String.le_total a.1 b.1)
    (e.fields ++ [("event", .string e.tag), ("ts", .string time)])
  exact hpairs.imp fun h => of_decide_eq_true h

/-- The time of a record does not show in its other fields: their order is that of their keys. -/
theorem untimed_eq (time time' : String) (e : Event) : e.untimed time = e.untimed time' := by
  have hsorted : ∀ time, (e.untimed time).Pairwise fun f g => f.1 ≤ g.1 := fun time =>
    (e.pairwise_recordFields time).filter _
  have hperm := (e.untimed_perm time).trans (e.untimed_perm time').symm
  have hnodup : ((e.untimed time).map Prod.fst).Nodup :=
    ((e.untimed_perm time).map Prod.fst).nodup_iff.mpr e.nodup_keys
  refine hperm.eq_of_pairwise (fun f g hf hg hfg hgf => ?_) (hsorted time) (hsorted time')
  exact List.inj_on_of_nodup_map hnodup hf (hperm.mem_iff.mpr hg) (String.le_antisymm hfg hgf)

/-- **The record of an event tells the event**, its time aside. -/
theorem untimed_inj {time time' : String} {e e' : Event} :
    e.untimed time = e'.untimed time' ↔ e = e' := by
  constructor
  · intro h
    exact eq_of_untimedFields_perm ((e.untimed_perm time).symm.trans (h ▸ e'.untimed_perm time'))
  · rintro rfl
    exact e.untimed_eq time time'

theorem nodup_timedKeys (time : String) (e : Event) :
    ((e.untimedFields ++ [("ts", JsonValue.string time)]).map Prod.fst).Nodup := by
  rw [List.map_append, List.nodup_append]
  refine ⟨e.nodup_keys, List.nodup_singleton _, ?_⟩
  simpa using fun key v hmem => e.key_ne_ts (key, v) hmem

theorem time_eq_of_recordFields_eq {time time' : String} {e e' : Event}
    (h : e.recordFields time = e'.recordFields time') : time = time' := by
  have hperm := (e.recordFields_perm time).symm.trans (h ▸ e'.recordFields_perm time')
  have hvalue := value_eq_of_perm hperm (e.nodup_timedKeys time) "ts" List.mem_concat_self
    List.mem_concat_self
  exact JsonValue.string.inj hvalue

theorem record_inj {time time' : String} {e e' : Event} (h : e.record time = e'.record time') :
    time = time' ∧ e = e' := by
  have hfields := JsonValue.object.inj h
  exact ⟨time_eq_of_recordFields_eq hfields,
    untimed_inj.mp (show e.untimed time = e'.untimed time' by rw [untimed, untimed, hfields])⟩

/-! ## Written records -/

theorem ascending_untimedFields (e : Event) : ∀ f ∈ e.untimedFields, f.2.Ascending := by
  have hkeys : "first" ≤ "last" := by decide
  have hlines : ∀ lines : LineRange, lines.json.Ascending := fun lines =>
    .object (List.pairwise_pair.mpr hkeys) (by simp) (by simp [JsonValue.Ascending.number])
  have hnumbers : ∀ numbers : List Nat, (JsonValue.array (numbers.map .number)).Ascending :=
    fun numbers => .array (by simp [JsonValue.Ascending.number])
  cases e <;> simp [untimedFields, fields, JsonValue.Ascending.string,
    JsonValue.Ascending.number, hlines, hnumbers]

theorem ascending_record (time : String) (e : Event) : (e.record time).Ascending := by
  have hperm := e.recordFields_perm time
  have hnodup : ((e.recordFields time).map Prod.fst).Nodup :=
    (hperm.map Prod.fst).nodup_iff.mpr (e.nodup_timedKeys time)
  refine .object (e.pairwise_recordFields time) hnodup fun f hf => ?_
  rcases List.mem_append.mp (hperm.mem_iff.mp hf) with hf | hf
  · exact e.ascending_untimedFields f hf
  · obtain rfl := List.mem_singleton.mp hf
    exact .string time

variable {write : JsonWriter}

theorem recordLine_inj (hwrite : write.Lawful) {time time' : String} {e e' : Event} :
    e.recordLine write time = e'.recordLine write time' ↔ time = time' ∧ e = e' := by
  constructor
  · exact fun h =>
      record_inj (hwrite.inj (e.ascending_record time) (e'.ascending_record time') h)
  · rintro ⟨rfl, rfl⟩
    rfl

end Event

/-! ## Files -/

section

variable (write : JsonWriter)

/-- What is kept when events come one after the other, each at its time, and a file takes all of
their records. -/
def recordAll (k : Kept) (events : List (String × Event)) : Kept :=
  events.foldl (fun k (time, e) => (Sink.records time none).emit write k e) k

/-- The text of the file of records. -/
def Kept.recordText (k : Kept) : List Char :=
  unlines k.written

/-- The lines of records of events at their times, or why they cannot be written. -/
def timedLines (events : List (String × Event)) : List (Except String (List Char)) :=
  events.map fun (time, e) => e.recordLine write time

theorem timedLines_cons (time : String) (e : Event) (events : List (String × Event)) :
    timedLines write ((time, e) :: events) =
      e.recordLine write time :: timedLines write events :=
  rfl

/-- A line that can be written is one of the lines of a file. -/
theorem filterMap_ok_cons (line : List Char) (lines : List (Except String (List Char))) :
    (.ok line :: lines).filterMap Except.toOption = line :: lines.filterMap Except.toOption :=
  rfl

/-- A line that cannot be written is left out. -/
theorem filterMap_error_cons (reason : String) (lines : List (Except String (List Char))) :
    (.error reason :: lines).filterMap Except.toOption = lines.filterMap Except.toOption :=
  rfl

theorem written_recordAll (k : Kept) (events : List (String × Event)) :
    (recordAll write k events).written =
      k.written ++ (timedLines write events).filterMap Except.toOption := by
  induction events generalizing k with
  | nil => simp [recordAll, timedLines]
  | cons event events ih =>
    obtain ⟨time, e⟩ := event
    have hstep := ih ((Sink.records time none).emit write k e)
    rw [timedLines_cons]
    show (recordAll write ((Sink.records time none).emit write k e) events).written = _
    cases hline : e.recordLine write time with
    | error reason =>
      rw [hstep, filterMap_error_cons]
      simp [Sink.emit, Kept.warn, hline]
    | ok line =>
      rw [hstep, filterMap_ok_cons]
      simp [Sink.emit, hline]

/-- The records of a discovery are those of its events, all at one time. -/
theorem recordLines_eq (time : String) (events : List Event) :
    recordLines write time events =
      (recordAll write .nothing (events.map (time, ·))).recordText := by
  rw [Kept.recordText, written_recordAll, Kept.nothing, List.nil_append]
  induction events with
  | nil => rfl
  | cons e events ih =>
    rw [List.map_cons, timedLines_cons]
    cases hline : e.recordLine write time with
    | error reason =>
      rw [filterMap_error_cons, ← ih]
      simp [recordLines, hline]
    | ok line =>
      rw [filterMap_ok_cons, unlines, List.flatMap_cons, ← unlines, ← ih]
      simp [recordLines, hline]

/-- The text is that of a file with the records of these events in their order, and of no others. -/
structure RecordFile (events : List (String × Event)) (text : List Char) : Prop where
  /-- Behind each record there is a line feed, and behind the last one nothing else. -/
  splitAt_eq : (splitAt '\n' text).map .ok = timedLines write events ++ [.ok []]
  /-- No record has a line feed of its own. -/
  count_eq : text.count '\n' = events.length
  /-- No other events have the same records. -/
  determines : ∀ events', (recordAll write .nothing events').recordText = text ↔ events' = events

end

theorem splitAt_unlines {rows : List (List Char)} (h : ∀ row ∈ rows, '\n' ∉ row) :
    splitAt '\n' (unlines rows) = rows ++ [[]] := by
  induction rows with
  | nil => rfl
  | cons row rows ih =>
    obtain ⟨hrow, hrows⟩ := List.forall_mem_cons.mp h
    have hcons : unlines (row :: rows) = row ++ '\n' :: unlines rows := by simp [unlines]
    rw [hcons, splitAt_append hrow, ih hrows, List.cons_append]

section

variable {write : JsonWriter} (hwrite : write.Lawful)

include hwrite

/-- Each event is written on a line of its own. -/
theorem exists_timedLines_eq (events : List (String × Event)) :
    ∃ lines : List (List Char), timedLines write events = lines.map .ok ∧
      ∀ line ∈ lines, '\n' ∉ line := by
  induction events with
  | nil => exact ⟨[], rfl, List.forall_mem_nil _⟩
  | cons event events ih =>
    obtain ⟨time, e⟩ := event
    obtain ⟨line, hline⟩ := hwrite.exists_write (e.ascending_record time)
    obtain ⟨lines, hlines, hfree⟩ := ih
    refine ⟨line :: lines, ?_, List.forall_mem_cons.mpr ⟨?_, hfree⟩⟩
    · rw [timedLines_cons, hlines, Event.recordLine, hline, List.map_cons]
    · exact hwrite.newline_not_mem (e.ascending_record time) hline

theorem timedLines_injective {events events' : List (String × Event)}
    (h : timedLines write events = timedLines write events') : events = events' := by
  have hinj : Function.Injective fun p : String × Event => p.2.recordLine write p.1 := by
    rintro ⟨time, e⟩ ⟨time', e'⟩ hline
    obtain ⟨rfl, rfl⟩ := (Event.recordLine_inj hwrite).mp hline
    rfl
  exact hinj.list_map h

/-- The text of a file is cut at its line feeds into the records. -/
theorem map_splitAt_recordText (events : List (String × Event)) :
    (splitAt '\n' (recordAll write .nothing events).recordText).map .ok =
      timedLines write events ++ [.ok []] := by
  obtain ⟨lines, hlines, hfree⟩ := exists_timedLines_eq hwrite events
  have hwritten : (recordAll write .nothing events).recordText = unlines lines := by
    rw [Kept.recordText, written_recordAll, Kept.nothing, List.nil_append, hlines,
      List.filterMap_map]
    exact congrArg unlines List.filterMap_some
  rw [hwritten, splitAt_unlines hfree, List.map_append, hlines]
  rfl

theorem recordFile_recordAll (events : List (String × Event)) :
    RecordFile write events (recordAll write .nothing events).recordText := by
  have hsplit := map_splitAt_recordText hwrite
  refine ⟨hsplit events, ?_, fun events' => ⟨fun heq => ?_, fun heq => by rw [heq]⟩⟩
  · have hlength := length_splitAt '\n' (recordAll write .nothing events).recordText
    have hrows := congrArg List.length (hsplit events)
    rw [List.length_map, hlength] at hrows
    simpa [timedLines] using hrows
  · have hrows := hsplit events'
    rw [heq, hsplit events] at hrows
    exact (timedLines_injective hwrite (List.append_cancel_right hrows)).symm

/-- **A file of records tells what happened**, whatever writes them: its lines are the records of
the events, one for each in their order, and no other events have these records. A record tells its
event without the time, and its line tells both. -/
theorem records_unambiguous :
    (∀ events, RecordFile write events (recordAll write .nothing events).recordText) ∧
      (∀ time time' e e', Event.untimed time e = Event.untimed time' e' ↔ e = e') ∧
      ∀ time time' e e', Event.recordLine write time e = Event.recordLine write time' e' ↔
        time = time' ∧ e = e' :=
  ⟨recordFile_recordAll hwrite, fun _ _ _ _ => Event.untimed_inj,
    fun _ _ _ _ => Event.recordLine_inj hwrite⟩

end

/-- A file is skipped whose name has a line feed, a quote and a backslash. -/
def oddlyNamed : List (String × Event) :=
  [("t", .started "main"), ("u", .fileSkipped "a\n\"\\")]

/-- Its line feed is behind a backslash. -/
theorem records_unambiguous_oddlyNamed :
    jsonWriter.Lawful ∧
      (recordAll jsonWriter .nothing oddlyNamed).recordText =
        ("\x7b\"base_branch\":\"main\",\"event\":\"started\",\"ts\":\"t\"\x7d\n" ++
          "\x7b\"event\":\"file_skipped\",\"path\":\"a\\n\\\"\\\\\",\"ts\":\"u\"\x7d\n").toList ∧
      RecordFile jsonWriter oddlyNamed (recordAll jsonWriter .nothing oddlyNamed).recordText :=
  ⟨lawful_jsonWriter, by cbv, (records_unambiguous lawful_jsonWriter).1 oddlyNamed⟩

end RuleDelta

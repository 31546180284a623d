import RuleDelta.Git.Runner

/-!
# What a run ends with

`Run.Ends` says with which result and which trace a part of a run ends. The lemmas take a run apart
along its parts, so that what a run returns can be traced back to its start. `Run.Does` says with
which result a part ends whatever was done before, and what it adds to the commands and the events;
its lemmas put parts together.
-/

namespace RuleDelta

namespace Run

variable {α β : Type} {t t' : Trace}

/-- The result of a part of a run that starts with a trace, and the trace behind it. -/
def outcome (x : Run α) (t : Trace) : Except Error α × Trace :=
  x.run.run t

/-- The part of a run that starts with a trace ends with this result and this trace. -/
def Ends (x : Run α) (t : Trace) (r : Except Error α) (t' : Trace) : Prop :=
  x.outcome t = (r, t')

theorem ends_outcome {x : Run α} {r : Except Error α} (h : (x.outcome t).1 = r) :
    x.Ends t r (x.outcome t).2 :=
  Prod.ext h rfl

/-- What a part returns can be compared, unlike its errors. -/
theorem ends_of_toOption {x : Run α} {a : α} (h : (x.outcome t).1.toOption = some a) :
    x.Ends t (.ok a) (x.outcome t).2 := by
  refine ends_outcome ?_
  cases hr : (x.outcome t).1 with
  | ok b => rw [hr] at h; exact congrArg _ (Option.some.inj h)
  | error e => rw [hr] at h; cases h

theorem outcome_bind (x : Run α) (f : α → Run β) (t : Trace) :
    (x >>= f).outcome t = match x.outcome t with
      | (.ok a, s) => (f a).outcome s
      | (.error e, s) => (.error e, s) := by
  change (ExceptT.bindCont f (x.outcome t).1).run (x.outcome t).2 = _
  obtain ⟨r, s⟩ := x.outcome t
  cases r <;> rfl

/-- Two sequences that go on in the same way behind a part end in the same way. -/
theorem outcome_bind_congr {x : Run α} {g h : α → Run β} {t : Trace}
    (hgo : ∀ a s, x.Ends t (.ok a) s → (g a).outcome s = (h a).outcome s) :
    (x >>= g).outcome t = (x >>= h).outcome t := by
  rw [outcome_bind, outcome_bind]
  rcases hx : x.outcome t with ⟨r, s⟩
  cases r with
  | ok a => exact hgo a s hx
  | error e => rfl

theorem outcome_mapError (f : Error → Error) (x : Run α) (t : Trace) :
    (mapError f x).outcome t = ((x.outcome t).1.mapError f, (x.outcome t).2) :=
  rfl

theorem outcome_tryCatch (x : Run α) (handle : Error → Run α) (t : Trace) :
    (tryCatch x handle).outcome t = match x.outcome t with
      | (.ok a, s) => (.ok a, s)
      | (.error e, s) => (handle e).outcome s := by
  have hcatch : (tryCatch x handle).outcome t = (ExceptT.tryCatch x handle).run.run t := rfl
  have hrun : StateT.run x t = x.outcome t := rfl
  rw [hcatch, ExceptT.tryCatch, ExceptT.run_mk, StateT.run_bind, hrun]
  obtain ⟨r, s⟩ := x.outcome t
  cases r <;> rfl

theorem ends_pure {a : α} {r : Except Error α} :
    (pure a : Run α).Ends t r t' ↔ r = .ok a ∧ t' = t := by
  have h : (pure a : Run α).outcome t = (.ok a, t) := rfl
  simp [Ends, h, eq_comm]

theorem ends_throw {e : Error} {r : Except Error α} :
    (throw e : Run α).Ends t r t' ↔ r = .error e ∧ t' = t := by
  have h : (throw e : Run α).outcome t = (.error e, t) := rfl
  simp [Ends, h, eq_comm]

theorem ends_liftExcept {x r : Except Error α} :
    (liftExcept x : Run α).Ends t r t' ↔ r = x ∧ t' = t := by
  cases x with
  | ok a => exact ends_pure
  | error e => exact ends_throw

theorem ends_emit {e : Event} {r : Except Error Unit} :
    (emit e).Ends t r t' ↔ r = .ok () ∧ t' = { t with events := t.events ++ [e] } := by
  have h : (emit e).outcome t = (.ok (), { t with events := t.events ++ [e] }) := rfl
  simp [Ends, h, eq_comm]

/-- A sequence goes on behind a part that returns, and ends with a part that fails. -/
theorem ends_bind {x : Run α} {f : α → Run β} {r : Except Error β} :
    (x >>= f).Ends t r t' ↔
      (∃ a s, x.Ends t (.ok a) s ∧ (f a).Ends s r t') ∨
        ∃ e, x.Ends t (.error e) t' ∧ r = .error e := by
  unfold Ends
  rw [outcome_bind]
  obtain ⟨q, s⟩ := x.outcome t
  cases q with
  | ok a =>
    constructor
    · exact fun h => .inl ⟨a, s, rfl, h⟩
    · rintro (⟨_, _, ⟨⟩, h⟩ | ⟨_, ⟨⟩, _⟩)
      exact h
  | error e =>
    constructor
    · rintro ⟨⟩
      exact .inr ⟨e, rfl, rfl⟩
    · rintro (⟨_, _, ⟨⟩, _⟩ | ⟨_, ⟨⟩, rfl⟩)
      rfl

theorem returns_pure {a b : α} : (pure a : Run α).Ends t (.ok b) t' ↔ b = a ∧ t' = t := by
  rw [ends_pure, Except.ok.injEq]

/-- A sequence returns when both of its parts do. -/
theorem returns_bind {x : Run α} {f : α → Run β} {b : β} :
    (x >>= f).Ends t (.ok b) t' ↔ ∃ a s, x.Ends t (.ok a) s ∧ (f a).Ends s (.ok b) t' := by
  simp [ends_bind]

/-- Another error in place of its own does not count where a part returns. -/
theorem returns_mapError {f : Error → Error} {x : Run α} {a : α} :
    (mapError f x).Ends t (.ok a) t' ↔ x.Ends t (.ok a) t' := by
  unfold Ends
  rw [outcome_mapError]
  obtain ⟨q, s⟩ := x.outcome t
  cases q with
  | ok b => exact Iff.rfl
  | error e => exact ⟨nofun, nofun⟩

/-- A part with a handler returns when it does, or when its handler does. -/
theorem returns_tryCatch {x : Run α} {handle : Error → Run α} {a : α} :
    (tryCatch x handle).Ends t (.ok a) t' ↔
      x.Ends t (.ok a) t' ∨ ∃ e s, x.Ends t (.error e) s ∧ (handle e).Ends s (.ok a) t' := by
  unfold Ends
  rw [outcome_tryCatch]
  obtain ⟨q, s⟩ := x.outcome t
  cases q with
  | ok b =>
    constructor
    · exact .inl
    · rintro (h | ⟨_, _, ⟨⟩, _⟩)
      exact h
  | error e =>
    constructor
    · exact fun h => .inr ⟨e, s, rfl, h⟩
    · rintro (h | ⟨_, _, ⟨⟩, h⟩)
      · cases h
      · exact h

/-! ## What a part of a run adds -/

/-- Whatever was done before, a part of a run ends with this result, and these are the commands and
the events that it adds. -/
def Does (x : Run α) (r : Except Error α) (calls : List (List String)) (events : List Event) :
    Prop :=
  ∀ t, ∃ t', x.Ends t r t' ∧ t'.calls = t.calls ++ calls ∧ t'.events = t.events ++ events

namespace Does

variable {x : Run α} {f : α → Run β} {r : Except Error α} {a : α} {e : Error}
  {calls calls' : List (List String)} {events events' : List Event}

/-- A part of a run ends in one way. -/
theorem of_ends (h : x.Does r calls events) {r' : Except Error α} (hends : x.Ends t r' t') :
    r' = r ∧ t'.calls = t.calls ++ calls ∧ t'.events = t.events ++ events := by
  obtain ⟨s, hs, hcalls, hevents⟩ := h t
  obtain ⟨rfl, rfl⟩ := Prod.mk.inj (hends.symm.trans hs)
  exact ⟨rfl, hcalls, hevents⟩

theorem unique (h : x.Does r calls events) {r' : Except Error α} (h' : x.Does r' calls' events') :
    r' = r ∧ calls' = calls ∧ events' = events := by
  obtain ⟨s, hs, hcalls, hevents⟩ := h' .start
  obtain ⟨rfl, hcalls', hevents'⟩ := h.of_ends hs
  exact ⟨rfl, List.append_cancel_left (hcalls.symm.trans hcalls'),
    List.append_cancel_left (hevents.symm.trans hevents')⟩

/-- A sequence does what its parts do. -/
theorem bind {r : Except Error β} (hx : x.Does (.ok a) calls events)
    (hf : (f a).Does r calls' events') :
    (x >>= f).Does r (calls ++ calls') (events ++ events') := by
  intro t
  obtain ⟨s, hs, hcalls, hevents⟩ := hx t
  obtain ⟨s', hs', hcalls', hevents'⟩ := hf s
  exact ⟨s', ends_bind.mpr (.inl ⟨a, s, hs, hs'⟩), by rw [hcalls', hcalls, List.append_assoc],
    by rw [hevents', hevents, List.append_assoc]⟩

/-- Nothing is done behind a part that fails. -/
theorem bind_error (hx : x.Does (.error e) calls events) :
    (x >>= f).Does (.error e) calls events := by
  intro t
  obtain ⟨s, hs, hcalls, hevents⟩ := hx t
  exact ⟨s, ends_bind.mpr (.inr ⟨e, hs, rfl⟩), hcalls, hevents⟩

theorem mapError (hx : x.Does r calls events) (g : Error → Error) :
    (Run.mapError g x).Does (r.mapError g) calls events := by
  intro t
  obtain ⟨s, hs, hcalls, hevents⟩ := hx t
  refine ⟨s, ?_, hcalls, hevents⟩
  rw [Ends, outcome_mapError, hs]

theorem tryCatch_ok (hx : x.Does (.ok a) calls events) (handle : Error → Run α) :
    (tryCatch x handle).Does (.ok a) calls events := by
  intro t
  obtain ⟨s, hs, hcalls, hevents⟩ := hx t
  refine ⟨s, ?_, hcalls, hevents⟩
  rw [Ends, outcome_tryCatch, hs]

theorem tryCatch_error {handle : Error → Run α} (hx : x.Does (.error e) calls events)
    (hhandle : (handle e).Does r calls' events') :
    (tryCatch x handle).Does r (calls ++ calls') (events ++ events') := by
  intro t
  obtain ⟨s, hs, hcalls, hevents⟩ := hx t
  obtain ⟨s', hs', hcalls', hevents'⟩ := hhandle s
  refine ⟨s', ?_, by rw [hcalls', hcalls, List.append_assoc],
    by rw [hevents', hevents, List.append_assoc]⟩
  rw [Ends, outcome_tryCatch, hs]
  exact hs'

end Does

theorem does_pure (a : α) : (pure a : Run α).Does (.ok a) [] [] :=
  fun t => ⟨t, ends_pure.mpr ⟨rfl, rfl⟩, by simp, by simp⟩

/-- What is returned behind a part adds nothing. -/
theorem Does.bind_pure {x : Run α} {a : α} {calls : List (List String)} {events : List Event}
    (h : x.Does (.ok a) calls events) (f : α → β) :
    (x >>= fun a => pure (f a)).Does (.ok (f a)) calls events := by
  have hbind : (x >>= fun a => pure (f a)).Does (.ok (f a)) (calls ++ []) (events ++ []) :=
    h.bind (does_pure (f a))
  rwa [List.append_nil, List.append_nil] at hbind

theorem does_throw (e : Error) : (throw e : Run α).Does (.error e) [] [] :=
  fun t => ⟨t, ends_throw.mpr ⟨rfl, rfl⟩, by simp, by simp⟩

theorem does_liftExcept (r : Except Error α) : (liftExcept r : Run α).Does r [] [] :=
  fun t => ⟨t, ends_liftExcept.mpr ⟨rfl, rfl⟩, by simp, by simp⟩

theorem does_emit (e : Event) : (emit e).Does (.ok ()) [] [e] :=
  fun _ => ⟨_, ends_emit.mpr ⟨rfl, rfl⟩, by simp, rfl⟩

theorem does_warn (message : String) (fields : List (String × String)) :
    (warn message fields).Does (.ok ()) [] [] :=
  fun t => ⟨{ t with log := t.log ++ [⟨.warn, message, fields⟩] }, rfl, by simp, by simp⟩

theorem does_git (runner : GitRunner) (args : List String) :
    (git runner args).Does (runner args) [args] [] := by
  intro t
  refine ⟨{ t with calls := t.calls ++ [args] }, ?_, rfl, by simp⟩
  unfold git
  cases runner args <;> rfl

end Run

end RuleDelta

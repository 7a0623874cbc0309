import VCalendar.Journal.Event

/-!
# Reports

A computation reports the events that it noted, in order, and its outcome: a
value or an error.  What was noted before an error is kept.
-/

namespace VCalendar

structure Report (ε α : Type) where
  events : List Event
  outcome : Except ε α

namespace Report

variable {ε α β : Type}

def note (event : Event) : Report ε Unit :=
  ⟨[event], .ok ()⟩

def noteAll (events : List Event) : Report ε Unit :=
  ⟨events, .ok ()⟩

def fail (error : ε) : Report ε α :=
  ⟨[], .error error⟩

def ofExcept (outcome : Except ε α) : Report ε α :=
  ⟨[], outcome⟩

def andThen : Report ε α → (α → Report ε β) → Report ε β
  | ⟨events, .error e⟩, _ => ⟨events, .error e⟩
  | ⟨events, .ok a⟩, f =>
    let ⟨more, outcome⟩ := f a
    ⟨events ++ more, outcome⟩

instance : Monad (Report ε) where
  pure a := ⟨[], .ok a⟩
  bind := andThen

/-- The same events with the error seen as another error. -/
def mapError {ε' : Type} (f : ε → ε') (r : Report ε α) : Report ε' α :=
  ⟨r.events, r.outcome.mapError f⟩

/-! ## Events and outcome of a composed report -/

@[simp] theorem events_pure (a : α) : (pure a : Report ε α).events = [] := rfl

@[simp] theorem outcome_pure (a : α) : (pure a : Report ε α).outcome = .ok a := rfl

@[simp] theorem events_note (event : Event) : (note event : Report ε Unit).events = [event] := rfl

@[simp] theorem outcome_note (event : Event) : (note event : Report ε Unit).outcome = .ok () := rfl

@[simp] theorem events_fail (e : ε) : (fail e : Report ε α).events = [] := rfl

@[simp] theorem outcome_fail (e : ε) : (fail e : Report ε α).outcome = .error e := rfl

/-- The outcome of a composed report does not depend on what was noted. -/
theorem outcome_bind (r : Report ε α) (f : α → Report ε β) :
    (r >>= f).outcome = r.outcome >>= fun a => (f a).outcome := by
  obtain ⟨_, outcome⟩ := r
  cases outcome <;> rfl

theorem events_bind (r : Report ε α) (f : α → Report ε β) :
    (r >>= f).events =
      match r.outcome with
      | .error _ => r.events
      | .ok a => r.events ++ (f a).events := by
  obtain ⟨_, outcome⟩ := r
  cases outcome <;> rfl

end Report

end VCalendar

import Mathlib.Data.List.Basic

/-!
Event-driven machines with observable outputs. An event that is not possible in
a state has no successor. `Run` collects the outputs of every finite history
whose steps all meet a condition on the state before the step and the event;
`execute` is the same history computed from a list of events. Nothing here
fixes a scheduler: an interleaving is just a list of events.
-/

namespace OnlyTwo

structure Machine (State Event Output : Type) where
  step : State → Event → Option (State × List Output)

namespace Machine

variable {State Event Output : Type}

inductive Run (machine : Machine State Event Output) (allowed : State → Event → Prop)
    (start : State) : State → List Output → Prop where
  | refl : Run machine allowed start start []
  | next {before after : State} {history outputs : List Output} {event : Event} :
      Run machine allowed start before history → allowed before event →
      machine.step before event = some (after, outputs) →
      Run machine allowed start after (history ++ outputs)

def Unrestricted : State → Event → Prop := fun _ _ => True

variable {machine : Machine State Event Output} {allowed : State → Event → Prop}
  {start finish : State} {history : List Output}

/-- The invariant rule over whole histories. -/
theorem Run.invariant (property : State → List Output → Prop) (initial : property start [])
    (preserved : ∀ before past event after outputs, property before past →
      allowed before event → machine.step before event = some (after, outputs) →
      property after (past ++ outputs))
    (run : Run machine allowed start finish history) : property finish history := by
  induction run with
  | refl => exact initial
  | next _ admitted stepped ih => exact preserved _ _ _ _ _ ih admitted stepped

/-- The same rule for a property of the state alone. -/
theorem Run.state_invariant (property : State → Prop) (initial : property start)
    (preserved : ∀ before event after outputs, property before →
      allowed before event → machine.step before event = some (after, outputs) →
      property after)
    (run : Run machine allowed start finish history) : property finish :=
  run.invariant (fun state _ => property state) initial
    (fun before _ event after outputs holds => preserved before event after outputs holds)

theorem Run.mono {weaker : State → Event → Prop}
    (admits : ∀ state event, allowed state event → weaker state event)
    (run : Run machine allowed start finish history) :
    Run machine weaker start finish history := by
  induction run with
  | refl => exact Run.refl
  | next _ admitted stepped ih => exact Run.next ih (admits _ _ admitted) stepped

/-- A step from a state with an invariant meets whatever the invariant adds to its condition. -/
theorem Run.strengthen {stronger : State → Event → Prop} (property : State → Prop)
    (initial : property start)
    (preserved : ∀ before event after outputs, property before →
      allowed before event → machine.step before event = some (after, outputs) →
      property after)
    (admits : ∀ state event, property state → allowed state event → stronger state event)
    (run : Run machine allowed start finish history) :
    Run machine stronger start finish history := by
  induction run with
  | refl => exact Run.refl
  | next prior admitted stepped ih =>
      have holds := prior.state_invariant property initial preserved
      exact Run.next ih (admits _ _ holds admitted) stepped

def execute (machine : Machine State Event Output) :
    State → List Event → Option (State × List Output)
  | state, [] => some (state, [])
  | state, event :: rest =>
      match machine.step state event with
      | none => none
      | some (next, outputs) =>
          (machine.execute next rest).map fun result => (result.1, outputs ++ result.2)

/-- Every step that `execute` takes meets the condition. -/
def Along (machine : Machine State Event Output) (allowed : State → Event → Prop) :
    State → List Event → Prop
  | _, [] => True
  | state, event :: rest => allowed state event ∧
      ∀ next outputs, machine.step state event = some (next, outputs) →
        machine.Along allowed next rest

/-- The condition is decided along an execution by running it. -/
instance decidableAlong (machine : Machine State Event Output) (allowed : State → Event → Prop)
    [decides : ∀ state event, Decidable (allowed state event)] :
    (state : State) → (events : List Event) → Decidable (machine.Along allowed state events)
  | _, [] => inferInstanceAs (Decidable True)
  | state, event :: rest =>
      match stepped : machine.step state event with
      | none => decidable_of_iff (allowed state event)
          ⟨fun holds => ⟨holds, fun _ _ taken => by simp [stepped] at taken⟩, And.left⟩
      | some (next, outputs) =>
          have := decidableAlong machine allowed next rest
          decidable_of_iff (allowed state event ∧ machine.Along allowed next rest)
            ⟨fun holds => ⟨holds.1, fun other _ taken => by
                cases stepped.symm.trans taken
                exact holds.2⟩,
              fun holds => ⟨holds.1, holds.2 next outputs stepped⟩⟩

theorem execute_cons {state final : State} {event : Event} {rest : List Event}
    {outputs : List Output} :
    machine.execute state (event :: rest) = some (final, outputs) ↔
      ∃ next first later, machine.step state event = some (next, first) ∧
        machine.execute next rest = some (final, later) ∧ outputs = first ++ later := by
  simp only [execute]
  cases stepped : machine.step state event with
  | none => simp
  | some result =>
      obtain ⟨next, first⟩ := result
      simp only [Option.map_eq_some_iff, Prod.exists, Prod.mk.injEq, Option.some.injEq]
      constructor
      · rintro ⟨last, later, ran, rfl, rfl⟩
        exact ⟨next, first, later, ⟨rfl, rfl⟩, ran, rfl⟩
      · rintro ⟨_, _, later, ⟨rfl, rfl⟩, ran, rfl⟩
        exact ⟨final, later, ran, rfl, rfl⟩

theorem Run.extend {middle : State} {past : List Output} (events : List Event)
    (run : Run machine allowed start middle past)
    (along : machine.Along allowed middle events)
    (ran : machine.execute middle events = some (finish, history)) :
    Run machine allowed start finish (past ++ history) := by
  induction events generalizing middle past history with
  | nil =>
      simp only [execute, Option.some.injEq, Prod.mk.injEq] at ran
      obtain ⟨rfl, rfl⟩ := ran
      simpa using run
  | cons event rest ih =>
      obtain ⟨next, first, later, stepped, remaining, rfl⟩ := execute_cons.mp ran
      have extended := ih (run.next along.1 stepped) (along.2 next first stepped) remaining
      simpa [List.append_assoc] using extended

theorem execute_run (events : List Event) (along : machine.Along allowed start events)
    (ran : machine.execute start events = some (finish, history)) :
    Run machine allowed start finish history := by
  have extended := Run.extend events Run.refl along ran
  simpa using extended

theorem execute_reaches (events : List Event)
    (along : machine.Along allowed start events)
    (reached : (machine.execute start events).map Prod.fst = some finish) :
    ∃ outputs, Run machine allowed start finish outputs := by
  obtain ⟨⟨final, outputs⟩, ran, rfl⟩ := Option.map_eq_some_iff.mp reached
  exact ⟨outputs, execute_run events along ran⟩

theorem along_of_forall (state : State) (events : List Event)
    (all : ∀ event ∈ events, ∀ state, allowed state event) :
    machine.Along allowed state events := by
  induction events generalizing state with
  | nil => trivial
  | cons event rest ih =>
      exact ⟨all event List.mem_cons_self state, fun next _ _ =>
        ih next (fun other member => all other (List.mem_cons_of_mem event member))⟩

theorem along_unrestricted (state : State) (events : List Event) :
    machine.Along Unrestricted state events :=
  along_of_forall state events (fun _ _ _ => trivial)

end Machine

end OnlyTwo

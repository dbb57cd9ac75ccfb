import Mathlib.Data.List.Basic

/-!
# Runs of a partial step function

A system is given by `step : State → Event → Option State`, where `none` says
that the event cannot happen in that state.  A run is a list of events, and a
property of runs is proved by an invariant that every step preserves.  The
guarded form asks for preservation only at the steps that meet a condition on
the state before the step and the event.
-/

namespace SsP2p.Runs

variable {State Event : Type*} (step : State → Event → Option State)

/-- The state after a run, `none` as soon as one event cannot happen. -/
def execute : State → List Event → Option State
  | state, [] => some state
  | state, event :: events => (step state event).bind fun next => execute next events

/-- Every step of the run meets `condition` in the state it is taken from. -/
def Meets (condition : State → Event → Prop) : State → List Event → Prop
  | _, [] => True
  | state, event :: events =>
      condition state event ∧
        (step state event).elim True fun next => Meets condition next events

instance decidableMeets (condition : State → Event → Prop)
    [∀ state event, Decidable (condition state event)] :
    ∀ (state : State) (events : List Event),
      Decidable (Meets step condition state events)
  | _, [] => .isTrue trivial
  | state, event :: events =>
      have : Decidable ((step state event).elim True fun next =>
          Meets step condition next events) :=
        match step state event with
        | none => .isTrue trivial
        | some next => decidableMeets condition next events
      inferInstanceAs (Decidable (_ ∧ _))

/-- `Property` holds in every state that the run reaches, the first included. -/
def Throughout (Property : State → Prop) : State → List Event → Prop
  | state, [] => Property state
  | state, event :: events =>
      Property state ∧
        (step state event).elim True fun next => Throughout Property next events

instance decidableThroughout (Property : State → Prop)
    [∀ state, Decidable (Property state)] :
    ∀ (state : State) (events : List Event),
      Decidable (Throughout step Property state events)
  | state, [] => inferInstanceAs (Decidable (Property state))
  | state, event :: events =>
      have : Decidable ((step state event).elim True fun next =>
          Throughout step Property next events) :=
        match step state event with
        | none => .isTrue trivial
        | some next => decidableThroughout Property next events
      inferInstanceAs (Decidable (_ ∧ _))

variable {step}

@[simp]
theorem execute_nil (state : State) : execute step state [] = some state := rfl

theorem execute_cons_eq_some {state last : State} {event : Event}
    {events : List Event} :
    execute step state (event :: events) = some last ↔
      ∃ next, step state event = some next ∧
        execute step next events = some last := by
  simp [execute, Option.bind_eq_some_iff]

theorem execute_append (state : State) (first second : List Event) :
    execute step state (first ++ second) =
      (execute step state first).bind fun next => execute step next second := by
  induction first generalizing state with
  | nil => rfl
  | cons event events ih =>
      simp only [List.cons_append, execute]
      cases step state event with
      | none => rfl
      | some next => simpa using ih next

/-- A run that reaches a state decomposes at every point of it. -/
theorem execute_append_eq_some {state last : State}
    {first second : List Event} :
    execute step state (first ++ second) = some last ↔
      ∃ middle, execute step state first = some middle ∧
        execute step middle second = some last := by
  rw [execute_append, Option.bind_eq_some_iff]

/-- Events that meet the condition in every state. -/
theorem meets_of_forall {condition : State → Event → Prop} {events : List Event}
    (hevents : ∀ event ∈ events, ∀ state, condition state event) (state : State) :
    Meets step condition state events := by
  induction events generalizing state with
  | nil => exact trivial
  | cons event events ih =>
      refine ⟨hevents event List.mem_cons_self state, ?_⟩
      cases step state event with
      | none => exact trivial
      | some next => exact ih (fun other hother => hevents other
          (List.mem_cons_of_mem event hother)) next

/-- What every step that meets `condition` preserves holds at the end of every
run all of whose steps meet it. -/
theorem invariant_of_meets {condition : State → Event → Prop}
    (Invariant : State → Prop)
    (hstep : ∀ state event next, Invariant state → condition state event →
      step state event = some next → Invariant next)
    {state last : State} {events : List Event} (hstart : Invariant state)
    (hmeets : Meets step condition state events)
    (hrun : execute step state events = some last) : Invariant last := by
  induction events generalizing state with
  | nil =>
      cases hrun
      exact hstart
  | cons event events ih =>
      obtain ⟨next, hnext, hrest⟩ := execute_cons_eq_some.mp hrun
      obtain ⟨hcondition, hmeets⟩ := hmeets
      rw [hnext] at hmeets
      exact ih (hstep state event next hstart hcondition hnext) hmeets hrest

/-- Conditions that agree wherever an invariant holds are met by the same runs. -/
theorem meets_congr {condition other : State → Event → Prop} (Invariant : State → Prop)
    (hstep : ∀ state event next, Invariant state →
      step state event = some next → Invariant next)
    (hiff : ∀ state event, Invariant state → (condition state event ↔ other state event))
    {state : State} (hstart : Invariant state) (events : List Event) :
    Meets step condition state events ↔ Meets step other state events := by
  induction events generalizing state with
  | nil => exact Iff.rfl
  | cons event events ih =>
      rw [Meets, Meets, hiff state event hstart]
      apply and_congr_right
      intro _
      cases hnext : step state event with
      | none => exact Iff.rfl
      | some next => exact ih (hstep state event next hstart hnext)

theorem meets_true (state : State) (events : List Event) :
    Meets step (fun _ _ => True) state events :=
  meets_of_forall (fun _ _ _ => trivial) state

/-- What every step preserves holds at the end of every run. -/
theorem invariant_of_step (Invariant : State → Prop)
    (hstep : ∀ state event next, Invariant state →
      step state event = some next → Invariant next)
    {state last : State} {events : List Event} (hstart : Invariant state)
    (hrun : execute step state events = some last) : Invariant last :=
  invariant_of_meets Invariant (fun state event next hinvariant _ =>
    hstep state event next hinvariant) hstart (meets_true state events) hrun

/-- What an invariant implies holds throughout every run whose steps meet the condition
under which they preserve it. -/
theorem throughout_of_meets {condition : State → Event → Prop} (Invariant : State → Prop)
    {Property : State → Prop}
    (hstep : ∀ state event next, Invariant state → condition state event →
      step state event = some next → Invariant next)
    (hproperty : ∀ state, Invariant state → Property state) {state : State}
    (hstart : Invariant state) {events : List Event}
    (hmeets : Meets step condition state events) :
    Throughout step Property state events := by
  induction events generalizing state with
  | nil => exact hproperty state hstart
  | cons event events ih =>
      obtain ⟨hcondition, hmeets⟩ := hmeets
      refine ⟨hproperty state hstart, ?_⟩
      cases hnext : step state event with
      | none => exact trivial
      | some next =>
          rw [hnext] at hmeets
          exact ih (hstep state event next hstart hcondition hnext) hmeets

/-- What an invariant that every step preserves implies holds throughout every run. -/
theorem throughout_of_step (Invariant : State → Prop) {Property : State → Prop}
    (hstep : ∀ state event next, Invariant state →
      step state event = some next → Invariant next)
    (hproperty : ∀ state, Invariant state → Property state) {state : State}
    (hstart : Invariant state) (events : List Event) :
    Throughout step Property state events :=
  throughout_of_meets Invariant (fun state event next hinvariant _ =>
    hstep state event next hinvariant) hproperty hstart (meets_true state events)

/-- What holds throughout a run holds in its first state. -/
theorem first_of_throughout {Property : State → Prop} {state : State} {events : List Event}
    (hthroughout : Throughout step Property state events) : Property state := by
  cases events with
  | nil => exact hthroughout
  | cons event events => exact hthroughout.1

/-- What holds throughout a run holds at its end. -/
theorem last_of_throughout {Property : State → Prop} {state last : State}
    {events : List Event} (hthroughout : Throughout step Property state events)
    (hrun : execute step state events = some last) : Property last := by
  induction events generalizing state with
  | nil =>
      cases hrun
      exact hthroughout
  | cons event events ih =>
      obtain ⟨next, hnext, hrest⟩ := execute_cons_eq_some.mp hrun
      have htail := hthroughout.2
      rw [hnext] at htail
      exact ih htail hrest

/-- Where no step reaches a property without the condition, the property holds throughout
no run with a step that does not meet it. -/
theorem meets_of_throughout {condition : State → Event → Prop} (Invariant : State → Prop)
    {Property : State → Prop}
    (hstep : ∀ state event next, Invariant state →
      step state event = some next → Invariant next)
    (hneeds : ∀ state event next, Invariant state → Property state →
      step state event = some next → Property next → condition state event)
    (hstuck : ∀ state event, step state event = none → condition state event)
    {state : State} {events : List Event} (hstart : Invariant state)
    (hthroughout : Throughout step Property state events) :
    Meets step condition state events := by
  induction events generalizing state with
  | nil => exact trivial
  | cons event events ih =>
      obtain ⟨hproperty, htail⟩ := hthroughout
      cases hnext : step state event with
      | none =>
          simp only [Meets, hnext, Option.elim_none, and_true]
          exact hstuck state event hnext
      | some next =>
          rw [hnext] at htail
          have hpropertyNext := first_of_throughout htail
          simp only [Meets, hnext, Option.elim_some]
          exact ⟨hneeds state event next hstart hproperty hnext hpropertyNext,
            ih (hstep state event next hstart hnext) htail⟩

/-- In a run that meets a guard, an invariant that no guarded step breaks may turn a property
into a condition on the step before it: the property then holds throughout exactly the runs
whose steps all meet the condition. -/
theorem throughout_iff_meets_within {guard condition : State → Event → Prop}
    (Invariant : State → Prop) {Property : State → Prop}
    (hstep : ∀ state event next, Invariant state → guard state event →
      step state event = some next → Invariant next)
    (hexact : ∀ state event next, Invariant state → guard state event → Property state →
      step state event = some next → (Property next ↔ condition state event))
    (hstuck : ∀ state event, step state event = none → condition state event)
    {state : State} {events : List Event} (hguard : Meets step guard state events)
    (hinvariant : Invariant state) (hproperty : Property state) :
    Throughout step Property state events ↔ Meets step condition state events := by
  induction events generalizing state with
  | nil => exact iff_of_true hproperty trivial
  | cons event events ih =>
      obtain ⟨hguarded, hrest⟩ := hguard
      cases hnext : step state event with
      | none =>
          simp only [Throughout, Meets, hnext, Option.elim_none, and_true]
          exact iff_of_true hproperty (hstuck state event hnext)
      | some next =>
          rw [hnext] at hrest
          have hinvariantNext := hstep state event next hinvariant hguarded hnext
          have hiff := hexact state event next hinvariant hguarded hproperty hnext
          simp only [Throughout, Meets, hnext, Option.elim_some]
          constructor
          · rintro ⟨-, htail⟩
            have hpropertyNext := first_of_throughout htail
            exact ⟨hiff.mp hpropertyNext, (ih hrest hinvariantNext hpropertyNext).mp htail⟩
          · rintro ⟨hcondition, htail⟩
            exact ⟨hproperty, (ih hrest hinvariantNext (hiff.mpr hcondition)).mpr htail⟩

/-- What no guarded step brings back holds throughout a run that has it at its end. -/
theorem throughout_iff_last {guard : State → Event → Prop} (Invariant : State → Prop)
    {Property : State → Prop}
    (hstep : ∀ state event next, Invariant state → guard state event →
      step state event = some next → Invariant next)
    (hback : ∀ state event next, Invariant state → guard state event →
      step state event = some next → Property next → Property state)
    {state last : State} {events : List Event} (hguard : Meets step guard state events)
    (hinvariant : Invariant state) (hrun : execute step state events = some last) :
    Throughout step Property state events ↔ Property last := by
  induction events generalizing state with
  | nil =>
      cases hrun
      exact Iff.rfl
  | cons event events ih =>
      obtain ⟨hguarded, hrest⟩ := hguard
      obtain ⟨next, hnext, hrun⟩ := execute_cons_eq_some.mp hrun
      rw [hnext] at hrest
      have htail := ih hrest (hstep state event next hinvariant hguarded hnext) hrun
      simp only [Throughout, hnext, Option.elim_some]
      rw [htail]
      constructor
      · exact And.right
      · intro hlast
        have hpropertyNext := first_of_throughout (htail.mpr hlast)
        exact ⟨hback state event next hinvariant hguarded hnext hpropertyNext, hlast⟩

/-- Where an invariant that no step breaks turns a property into a condition on
the step before it, the property holds throughout exactly the runs whose steps
all meet the condition. -/
theorem throughout_iff_meets {condition : State → Event → Prop}
    (Invariant : State → Prop) {Property : State → Prop}
    (hstep : ∀ state event next, Invariant state →
      step state event = some next → Invariant next)
    (hexact : ∀ state event next, Invariant state → Property state →
      step state event = some next → (Property next ↔ condition state event))
    (hstuck : ∀ state event, step state event = none → condition state event)
    {state : State} {events : List Event} (hinvariant : Invariant state)
    (hproperty : Property state) :
    Throughout step Property state events ↔ Meets step condition state events :=
  throughout_iff_meets_within Invariant
    (fun state event next hinvariant _ => hstep state event next hinvariant)
    (fun state event next hinvariant _ => hexact state event next hinvariant) hstuck
    (meets_true state events) hinvariant hproperty

end SsP2p.Runs

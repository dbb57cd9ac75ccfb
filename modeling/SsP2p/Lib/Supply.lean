import Mathlib.Data.List.Basic

/-!
# Actions that draw from a supply

An action is done for every item of a list, one after the other, and each time draws
one value from a supply.  `none` says that an action was not possible or that the
supply ran out.
-/

namespace SsP2p.Supply

variable {Item Value State : Type*}

/-- Do the action for every item; what is left of the supply is returned. -/
def forEach (act : Value → Item → State → Option State) :
    List Item → List Value → State → Option (State × List Value)
  | [], supply, state => some (state, supply)
  | _ :: _, [], _ => none
  | item :: items, value :: supply, state =>
      (act value item state).bind fun next => forEach act items supply next

variable {act : Value → Item → State → Option State}

theorem forEach_append (first second : List Item) (supply : List Value) (state : State) :
    forEach act (first ++ second) supply state =
      (forEach act first supply state).bind fun rest =>
        forEach act second rest.2 rest.1 := by
  induction first generalizing supply state with
  | nil => rfl
  | cons item first ih =>
      cases supply with
      | nil => rfl
      | cons value supply =>
          simp only [List.cons_append, forEach, Option.bind_assoc]
          congr 1
          funext next
          exact ih supply next

/-- What every action preserves is preserved by all of them. -/
theorem invariant_of_forEach (Invariant : State → Prop) {items : List Item}
    (hact : ∀ value, ∀ item ∈ items, ∀ state next, Invariant state →
      act value item state = some next → Invariant next)
    {supply rest : List Value} {state last : State} (hstart : Invariant state)
    (heach : forEach act items supply state = some (last, rest)) : Invariant last := by
  induction items generalizing supply state with
  | nil =>
      cases heach
      exact hstart
  | cons item items ih =>
      cases supply with
      | nil => cases heach
      | cons value supply =>
          obtain ⟨next, hnext, hrest⟩ := Option.bind_eq_some_iff.mp heach
          exact ih
            (fun value other hother => hact value other (List.mem_cons_of_mem item hother))
            (hact value item List.mem_cons_self state next hstart hnext) hrest

end SsP2p.Supply

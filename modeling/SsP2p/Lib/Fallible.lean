import Mathlib.Logic.Basic

/-!
# Fallible computations

Peeling a computation in `Except` apart: when a sequence of steps succeeds, each
of them did.
-/

namespace SsP2p.Fallible

universe u

variable {Error : Type*} {Value Result : Type u}

theorem bind_eq_ok {first : Except Error Value} {rest : Value → Except Error Result}
    {result : Result} :
    (first >>= rest) = .ok result ↔
      ∃ value, first = .ok value ∧ rest value = .ok result := by
  cases first with
  | error fault =>
      constructor
      · intro heq
        cases heq
      · rintro ⟨value, heq, -⟩
        cases heq
  | ok value =>
      constructor
      · intro heq
        exact ⟨value, rfl, heq⟩
      · rintro ⟨other, heq, hrest⟩
        cases heq
        exact hrest

theorem pure_eq_ok {value result : Value} :
    (pure value : Except Error Value) = .ok result ↔ value = result := by
  constructor
  · intro heq
    cases heq
    rfl
  · rintro rfl
    rfl

@[simp]
theorem ok_bind (value : Value) (rest : Value → Except Error Result) :
    ((.ok value : Except Error Value) >>= rest) = rest value := rfl

@[simp]
theorem error_bind (fault : Error) (rest : Value → Except Error Result) :
    ((.error fault : Except Error Value) >>= rest) = .error fault := rfl

@[simp]
theorem isOk_ok (value : Value) : (.ok value : Except Error Value).isOk = true := rfl

@[simp]
theorem isOk_error (fault : Error) : (.error fault : Except Error Value).isOk = false :=
  rfl

@[simp]
theorem isOk_pure (value : Value) : (pure value : Except Error Value).isOk = true :=
  rfl

theorem isOk_iff {computation : Except Error Value} :
    computation.isOk = true ↔ ∃ value, computation = .ok value := by
  cases computation with
  | error fault => simp
  | ok value => simp

/-- Steps that never fail do not decide whether a computation succeeds. -/
theorem isOk_bind_of_forall {first : Except Error Value}
    {rest : Value → Except Error Result} (hrest : ∀ value, (rest value).isOk = true) :
    (first >>= rest).isOk = first.isOk := by
  cases first with
  | error fault => rfl
  | ok value => exact hrest value

theorem map_eq_ok {computation : Except Error Value} {change : Value → Result}
    {result : Result} :
    computation.map change = .ok result ↔
      ∃ value, computation = .ok value ∧ change value = result := by
  cases computation with
  | error fault => simp [Except.map]
  | ok value => simp [Except.map]

/-- What one of the items is converted to is among the results. -/
theorem mem_of_mapM_eq_ok {Item : Type*} {convert : Item → Except Error Value}
    {items : List Item} {values : List Value} (hvalues : items.mapM convert = .ok values)
    {item : Item} (hitem : item ∈ items) {value : Value} (hvalue : convert item = .ok value) :
    value ∈ values := by
  induction items generalizing values with
  | nil => cases hitem
  | cons head tail ih =>
      simp only [List.mapM_cons, bind_eq_ok, pure_eq_ok] at hvalues
      obtain ⟨first, hfirst, rest, hrest, rfl⟩ := hvalues
      cases List.mem_cons.mp hitem with
      | inl heq =>
          rw [← heq, hvalue] at hfirst
          rw [Except.ok.inj hfirst]
          exact List.mem_cons_self
      | inr htail => exact List.mem_cons_of_mem first (ih hrest htail)

/-- A list that is written item by item is read back if and only if each item is. -/
theorem mapM_map_eq_ok_iff {Item : Type*} {write : Value → Item}
    {read : Item → Except Error Value} {values : List Value} :
    (values.map write).mapM read = .ok values ↔
      ∀ value ∈ values, read (write value) = .ok value := by
  induction values with
  | nil => simp [pure_eq_ok]
  | cons value values ih =>
      simp only [List.map_cons, List.mapM_cons, bind_eq_ok, pure_eq_ok, List.forall_mem_cons,
        ← ih, List.cons.injEq]
      constructor
      · rintro ⟨first, hfirst, rest, hrest, rfl, rfl⟩
        exact ⟨hfirst, hrest⟩
      · rintro ⟨hfirst, hrest⟩
        exact ⟨value, hfirst, values, hrest, rfl, rfl⟩

theorem isOk_mapM_iff {Item : Type*} {convert : Item → Except Error Value}
    {items : List Item} :
    (items.mapM convert).isOk = true ↔ ∀ item ∈ items, (convert item).isOk = true := by
  induction items with
  | nil => simp
  | cons item items ih =>
      rw [List.mapM_cons, List.forall_mem_cons, ← ih]
      cases convert item with
      | error fault => simp
      | ok value =>
          rw [ok_bind, isOk_bind_of_forall fun _ => rfl]
          simp

theorem toOption_eq_some_iff {computation : Except Error Value} {value : Value} :
    computation.toOption = some value ↔ computation = .ok value := by
  cases computation with
  | error fault =>
      constructor
      · intro heq
        cases heq
      · intro heq
        cases heq
  | ok result =>
      constructor
      · intro heq
        rw [Option.some.inj heq]
      · intro heq
        rw [Except.ok.inj heq]
        rfl

end SsP2p.Fallible

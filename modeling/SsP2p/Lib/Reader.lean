import SsP2p.Lib.Fallible
import Mathlib.Data.Nat.Notation

/-!
# Readers of a token stream

A reader takes a value off the front of its input and leaves the rest.  It is
steady when what it leaves is no longer than its input and more input behind that
changes nothing.  Of a steady reader no complete input continues another one.
-/

namespace SsP2p

universe u v

/-- Take a value off the front of the input. -/
abbrev Reader (Token : Type u) (Error : Type v) (Value : Type u) :=
  List Token → Except Error (Value × List Token)

namespace Reader

variable {Token Value Result : Type u} {Error : Type v}

def andThen (first : Reader Token Error Value)
    (next : Value → Reader Token Error Result) : Reader Token Error Result :=
  fun input => first input >>= fun read => next read.1 read.2

def done (value : Value) : Reader Token Error Value := fun input => .ok (value, input)

def stop (fault : Error) : Reader Token Error Value := fun _ => .error fault

theorem andThen_eq_ok {first : Reader Token Error Value}
    {next : Value → Reader Token Error Result} {input : List Token}
    {result : Result × List Token} :
    first.andThen next input = .ok result ↔
      ∃ value rest, first input = .ok (value, rest) ∧ next value rest = .ok result := by
  rw [andThen, Fallible.bind_eq_ok]
  constructor
  · rintro ⟨⟨value, rest⟩, hfirst, hnext⟩
    exact ⟨value, rest, hfirst, hnext⟩
  · rintro ⟨value, rest, hfirst, hnext⟩
    exact ⟨(value, rest), hfirst, hnext⟩

theorem andThen_of_ok {first : Reader Token Error Value}
    {next : Value → Reader Token Error Result} {input rest : List Token} {value : Value}
    (hfirst : first input = .ok (value, rest)) :
    first.andThen next input = next value rest := by
  rw [andThen, hfirst, Fallible.ok_bind]

/-! ## Steady readers -/

/-- What is left is no longer than the input, and more input behind it is left as well. -/
def Steady (read : Reader Token Error Value) : Prop :=
  ∀ ⦃input value rest⦄, read input = .ok (value, rest) →
    rest.length ≤ input.length ∧ ∀ more, read (input ++ more) = .ok (value, rest ++ more)

/-- Steady except for an input that ends with the value: its end may be part of what
was read. -/
def NearlySteady (read : Reader Token Error Value) : Prop :=
  ∀ ⦃input value rest⦄, read input = .ok (value, rest) →
    rest.length ≤ input.length ∧
      (rest ≠ [] → ∀ more, read (input ++ more) = .ok (value, rest ++ more))

theorem Steady.nearly {read : Reader Token Error Value} (hread : read.Steady) :
    read.NearlySteady :=
  fun _ _ _ hvalue => ⟨(hread hvalue).1, fun _ => (hread hvalue).2⟩

theorem steady_done (value : Value) : Steady (done value : Reader Token Error Value) := by
  intro input other rest hread
  obtain ⟨rfl, rfl⟩ := Prod.mk.inj (Except.ok.inj hread)
  exact ⟨Nat.le_refl _, fun _ => rfl⟩

theorem steady_stop (fault : Error) : Steady (stop fault : Reader Token Error Value) := by
  intro input value rest hread
  cases hread

theorem Steady.andThen {first : Reader Token Error Value}
    {next : Value → Reader Token Error Result} (hfirst : first.Steady)
    (hnext : ∀ value, (next value).Steady) : (first.andThen next).Steady := by
  intro input result rest hread
  obtain ⟨value, middle, hvalue, hresult⟩ := andThen_eq_ok.mp hread
  refine ⟨Nat.le_trans (hnext value hresult).1 (hfirst hvalue).1, fun more => ?_⟩
  rw [andThen_of_ok ((hfirst hvalue).2 more)]
  exact (hnext value hresult).2 more

theorem NearlySteady.andThen {first : Reader Token Error Value}
    {next : Value → Reader Token Error Result} (hfirst : first.NearlySteady)
    (hnext : ∀ value, (next value).NearlySteady) : (first.andThen next).NearlySteady := by
  intro input result rest hread
  obtain ⟨value, middle, hvalue, hresult⟩ := andThen_eq_ok.mp hread
  have hlength := (hnext value hresult).1
  refine ⟨Nat.le_trans hlength (hfirst hvalue).1, fun hrest more => ?_⟩
  have hmiddle : middle ≠ [] := by
    rintro rfl
    exact hrest (List.eq_nil_of_length_eq_zero (Nat.le_zero.mp hlength))
  rw [andThen_of_ok ((hfirst hvalue).2 hmiddle more)]
  exact (hnext value hresult).2 hrest more

/-- What cannot start at the end of the input makes up for a reader before it that takes
the end for a part of its value. -/
theorem NearlySteady.andThen_steady {first : Reader Token Error Value}
    {next : Value → Reader Token Error Result} (hfirst : first.NearlySteady)
    (hnext : ∀ value, (next value).Steady)
    (hend : ∀ value, (next value []).isOk = false) : (first.andThen next).Steady := by
  intro input result rest hread
  obtain ⟨value, middle, hvalue, hresult⟩ := andThen_eq_ok.mp hread
  have hmiddle : middle ≠ [] := by
    rintro rfl
    have hfails := hend value
    rw [hresult] at hfails
    cases hfails
  refine ⟨Nat.le_trans (hnext value hresult).1 (hfirst hvalue).1, fun more => ?_⟩
  rw [andThen_of_ok ((hfirst hvalue).2 hmiddle more)]
  exact (hnext value hresult).2 more

/-- Two readers of the second value may be exchanged where they agree on all inputs that
are no longer. -/
theorem NearlySteady.andThen_congr {first : Reader Token Error Value}
    {next other : Value → Reader Token Error Result} (hfirst : first.NearlySteady)
    {input : List Token}
    (hnext : ∀ value rest, rest.length ≤ input.length → next value rest = other value rest) :
    first.andThen next input = first.andThen other input := by
  rw [Reader.andThen, Reader.andThen]
  cases hread : first input with
  | error fault => rfl
  | ok read => exact hnext read.1 read.2 (hfirst hread).1

/-! ## What a reader yields -/

/-- Every value that is read has the property. -/
def Yields (read : Reader Token Error Value) (property : Value → Prop) : Prop :=
  ∀ ⦃input value rest⦄, read input = .ok (value, rest) → property value

theorem yields_done {property : Value → Prop} {value : Value} (hvalue : property value) :
    (done value : Reader Token Error Value).Yields property := by
  intro input other rest hread
  obtain ⟨rfl, -⟩ := Prod.mk.inj (Except.ok.inj hread)
  exact hvalue

theorem yields_stop {property : Value → Prop} (fault : Error) :
    (stop fault : Reader Token Error Value).Yields property := by
  intro input value rest hread
  cases hread

theorem Yields.andThen {first : Reader Token Error Value}
    {next : Value → Reader Token Error Result} {property : Value → Prop}
    {property' : Result → Prop} (hfirst : first.Yields property)
    (hnext : ∀ value, property value → (next value).Yields property') :
    (first.andThen next).Yields property' := by
  intro input result rest hread
  obtain ⟨value, middle, hvalue, hresult⟩ := andThen_eq_ok.mp hread
  exact hnext value (hfirst hvalue) hresult

theorem yields_true (read : Reader Token Error Value) : read.Yields fun _ => True :=
  fun _ _ _ _ => trivial

end Reader

end SsP2p

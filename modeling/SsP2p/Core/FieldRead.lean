import SsP2p.Core.Json
import SsP2p.Lib.Fallible

/-!
# The fields that a handler reads

A handler reads the fields of a document one after the other.  A read raises, or it
goes through, and it may go through although the field is absent or has another type
than the one that the program writes.
-/

namespace SsP2p

namespace Json

def isString : Json → Bool
  | string _ => true
  | _ => false

def isInteger : Json → Bool
  | integer _ => true
  | _ => false

def isArray : Json → Bool
  | array _ => true
  | _ => false

end Json

structure FieldRead where
  key : String
  /-- The read goes through. -/
  converts : Bool
  /-- The field is there and has the type that the program writes. -/
  typed : Bool

namespace FieldRead

/-- A typed conversion that goes through for nothing but its type. -/
def ofResult {Value : Type} (key : String) (result : Except Fault Value) : FieldRead :=
  ⟨key, result.isOk, result.isOk⟩

/-- A conversion to a number, which the program writes as an integer. -/
def ofNumber {Value : Type} (key : String) (body : Json)
    (result : Except Fault Value) : FieldRead :=
  ⟨key, result.isOk, body.isInteger⟩

/-- The comparison of a field of the `const` body with a string literal. -/
def ofComparison (key : String) (body : Json) : FieldRead where
  key := key
  converts := (body.constSubscript key).isOk
  typed :=
    match body.constSubscript key with
    | .ok value => value.isString
    | .error _ => false

end FieldRead

def AllConvert (reads : List FieldRead) : Prop :=
  ∀ read ∈ reads, read.converts = true

/-- A field that is read is absent or has another type. -/
def Malformed (reads : List FieldRead) : Prop :=
  ∃ read ∈ reads, read.typed = false

instance (reads : List FieldRead) : Decidable (AllConvert reads) :=
  inferInstanceAs (Decidable (∀ read ∈ reads, read.converts = true))

instance (reads : List FieldRead) : Decidable (Malformed reads) :=
  inferInstanceAs (Decidable (∃ read ∈ reads, read.typed = false))

@[simp]
theorem allConvert_nil : AllConvert [] := List.forall_mem_nil _

@[simp]
theorem allConvert_cons {read : FieldRead} {reads : List FieldRead} :
    AllConvert (read :: reads) ↔ read.converts = true ∧ AllConvert reads :=
  List.forall_mem_cons

@[simp]
theorem allConvert_append {first rest : List FieldRead} :
    AllConvert (first ++ rest) ↔ AllConvert first ∧ AllConvert rest :=
  List.forall_mem_append

end SsP2p

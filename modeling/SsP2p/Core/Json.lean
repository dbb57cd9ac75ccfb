import Mathlib.Algebra.Group.Int.Defs
import Mathlib.Algebra.Group.Nat.Defs
import Mathlib.Data.Int.Notation
import Mathlib.Data.Nat.Notation
import Mathlib.Data.List.Basic

/-!
# JSON values and their typed access

`nlohmann::json` as the message code uses it.  A `std::string` is kept as a
`String` with one character for each byte, an object as its list of fields.
Every access that raises does so with the exception of the library; the
`const` subscript asserts that the key is there, which is `Fault.missingKey`.
-/

namespace SsP2p

/-- What leaves a handler instead of a result: a C++ exception, or an access
whose behaviour is undefined. -/
inductive Fault where
  /-- `nlohmann::json::parse_error` of `from_bson`. -/
  | parseError
  /-- `nlohmann::json::type_error` with its number. -/
  | typeError (id : ℕ)
  /-- The `JSON_ASSERT` of the `const` subscript on an absent key. -/
  | missingKey (key : String)
  /-- `std::invalid_argument` of `std::stoi`. -/
  | invalidArgument
  /-- `std::out_of_range` of `std::stoi`. -/
  | outOfRange
  /-- `boost::system::system_error` of `address::from_string`. -/
  | badAddress
  /-- `std::runtime_error` of `string_generator`. -/
  | badUuid
  /-- A member of a null pointer. -/
  | nullPointer
  /-- `erase` at the end of a container. -/
  | eraseEnd
  deriving DecidableEq, Repr

/-- A `json` value; a float is kept as the bits of its `double`, and a binary with its
subtype if it has one. -/
inductive Json where
  | null
  | boolean (value : Bool)
  | integer (value : ℤ)
  | float (bits : UInt64)
  | string (value : String)
  | array (items : List Json)
  | object (fields : List (String × Json))
  | binary (bytes : List UInt8) (subtype : Option UInt64)

def lookupField (key : String) : List (String × Json) → Option Json
  | [] => none
  | (name, value) :: fields =>
      if name = key then some value else lookupField key fields

/-- Assign a field, in place when the key is there. -/
def assignField (key : String) (value : Json) :
    List (String × Json) → List (String × Json)
  | [] => [(key, value)]
  | (name, old) :: fields =>
      if name = key then (name, value) :: fields
      else (name, old) :: assignField key value fields

@[simp]
theorem lookupField_assignField_self (key : String) (value : Json)
    (fields : List (String × Json)) :
    lookupField key (assignField key value fields) = some value := by
  induction fields with
  | nil => simp [assignField, lookupField]
  | cons head tail ih =>
      obtain ⟨name, old⟩ := head
      by_cases hname : name = key
      · simp [assignField, lookupField, hname]
      · simp [assignField, lookupField, hname, ih]

theorem lookupField_assignField_of_ne {key other : String} (hne : other ≠ key)
    (value : Json) (fields : List (String × Json)) :
    lookupField other (assignField key value fields) = lookupField other fields := by
  induction fields with
  | nil => simp [assignField, lookupField, hne.symm]
  | cons head tail ih =>
      obtain ⟨name, old⟩ := head
      by_cases hname : name = key
      · subst hname
        simp [assignField, lookupField, hne.symm]
      · simp [assignField, lookupField, hname, ih]

namespace Json

/-- `contains`: false on everything that is not an object. -/
def contains (body : Json) (key : String) : Bool :=
  match body with
  | object fields => (lookupField key fields).isSome
  | _ => false

def constSubscript (body : Json) (key : String) : Except Fault Json :=
  match body with
  | object fields =>
      match lookupField key fields with
      | some value => .ok value
      | none => .error (.missingKey key)
  | _ => .error (.typeError 305)

/-- The subscript of a body that may be written to: `null` turns into an object
and an absent key into a `null` field.  Only the value is kept here, since a
body with a field added this way is never sent. -/
def subscript (body : Json) (key : String) : Except Fault Json :=
  match body with
  | object fields => .ok ((lookupField key fields).getD null)
  | null => .ok null
  | _ => .error (.typeError 305)

def assign (body : Json) (key : String) (value : Json) : Except Fault Json :=
  match body with
  | object fields => .ok (object (assignField key value fields))
  | null => .ok (object [(key, value)])
  | _ => .error (.typeError 305)

theorem constSubscript_assignField_self (key : String) (value : Json)
    (fields : List (String × Json)) :
    (object (assignField key value fields)).constSubscript key = .ok value := by
  rw [constSubscript, lookupField_assignField_self]

theorem constSubscript_assignField_of_ne {key other : String} (hne : other ≠ key)
    (value : Json) (fields : List (String × Json)) :
    (object (assignField key value fields)).constSubscript other =
      (object fields).constSubscript other := by
  rw [constSubscript, constSubscript, lookupField_assignField_of_ne hne]

theorem subscript_assignField_of_ne {key other : String} (hne : other ≠ key)
    (value : Json) (fields : List (String × Json)) :
    (object (assignField key value fields)).subscript other =
      (object fields).subscript other := by
  rw [subscript, subscript, lookupField_assignField_of_ne hne]

/-- `push_back`: `null` turns into an array. -/
def pushBack (body value : Json) : Except Fault Json :=
  match body with
  | array items => .ok (array (items ++ [value]))
  | null => .ok (array [value])
  | _ => .error (.typeError 308)

def getString : Json → Except Fault String
  | string value => .ok value
  | _ => .error (.typeError 302)

def getStrings : Json → Except Fault (List String)
  | array items => items.mapM getString
  | _ => .error (.typeError 302)

/-- The comparison of a value with a string literal. -/
def isLiteral (body : Json) (literal : String) : Bool :=
  match body with
  | string value => value == literal
  | _ => false

section Numbers

-- The truncation of a `double` to an integer.
variable (truncate : UInt64 → ℤ)

/-- `get` at an arithmetic type other than the ones JSON stores: a boolean
counts as a number. -/
def getArithmetic : Json → Except Fault ℤ
  | integer value => .ok value
  | float bits => .ok (truncate bits)
  | boolean value => .ok (if value then 1 else 0)
  | _ => .error (.typeError 302)

/-- `get` at an enumeration, through its underlying `unsigned int`. -/
def getEnum : Json → Except Fault ℕ
  | integer value => .ok (value % 2 ^ 32).toNat
  | float bits => .ok (truncate bits % 2 ^ 32).toNat
  | _ => .error (.typeError 302)

def getUShort (body : Json) : Except Fault UInt16 :=
  (getArithmetic truncate body).map fun value => UInt16.ofInt value

def getInt (body : Json) : Except Fault ℤ :=
  (getArithmetic truncate body).map fun value => value.bmod (2 ^ 32)

end Numbers

end Json

end SsP2p

import SsP2p.Core.EndpointText
import SsP2p.Core.JsonTree

/-!
# Reading what arrived

A message arrives with its objects in order.  No access of the program sees the order
of an object, so that what arrived is read like what was sent.
-/

namespace SsP2p.Json

@[simp]
theorem ordered_string (text : String) : (string text).ordered = string text :=
  ordered_of_isScalar trivial

@[simp]
theorem ordered_integer (value : ℤ) : (integer value).ordered = integer value :=
  ordered_of_isScalar trivial

@[simp]
theorem ordered_null : null.ordered = null := ordered_of_isScalar trivial

@[simp]
theorem ordered_object (fields : List (String × Json)) :
    (object fields).ordered = object (orderedFields fields) := by
  rw [ordered]

@[simp]
theorem ordered_array (items : List Json) :
    (array items).ordered = array (items.map ordered) := by
  rw [ordered, orderedItems_eq_map]

/-- A list of texts has nothing to be put in order. -/
@[simp]
theorem ordered_endpointTexts (platform : Platform) (eps : List Endpoint) :
    (endpointTexts platform eps).ordered = endpointTexts platform eps := by
  rw [endpointTexts, ordered_array, List.map_map]
  exact congrArg array (List.map_congr_left fun ep _ => ordered_string _)

/-! ## Accesses -/

theorem subscript_ordered (body : Json) (key : String) :
    body.ordered.subscript key = (body.subscript key).map ordered := by
  cases body with
  | object fields =>
      rw [ordered_object, subscript, lookupField_orderedFields, subscript]
      cases lookupField key fields with
      | none => exact congrArg Except.ok ordered_null.symm
      | some value => rfl
  | null => exact congrArg Except.ok ordered_null.symm
  | _ => rfl

theorem constSubscript_ordered (body : Json) (key : String) :
    body.ordered.constSubscript key = (body.constSubscript key).map ordered := by
  cases body with
  | object fields =>
      rw [ordered_object, constSubscript, lookupField_orderedFields, constSubscript]
      cases lookupField key fields <;> rfl
  | _ => rfl

end SsP2p.Json

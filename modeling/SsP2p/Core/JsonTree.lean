import SsP2p.Core.Json
import Mathlib.Data.String.Basic
import Mathlib.Data.List.Sort

/-!
# JSON values as trees

Induction over the objects and arrays of a value, predicates on all its parts, and
the order that its objects have as `std::map`s.  The order changes nothing for
who reads a value by its keys.
-/

namespace SsP2p.Json

def IsScalar : Json → Prop
  | object _ => False
  | array _ => False
  | _ => True

theorem tree_induction {motive : Json → Prop}
    (object : ∀ fields : List (String × Json), (∀ field ∈ fields, motive field.2) →
      motive (object fields))
    (array : ∀ items : List Json, (∀ item ∈ items, motive item) → motive (array items))
    (scalar : ∀ value : Json, value.IsScalar → motive value) (value : Json) :
    motive value := by
  refine @Json.rec motive (fun items => ∀ item ∈ items, motive item)
    (fun fields => ∀ field ∈ fields, motive field.2) (fun field => motive field.2)
    (scalar null trivial) (fun _ => scalar _ trivial) (fun _ => scalar _ trivial)
    (fun _ => scalar _ trivial) (fun _ => scalar _ trivial) array object
    (fun _ _ => scalar _ trivial) ?_ ?_ ?_ ?_ (fun _ _ hvalue => hvalue) value
  · simp
  · intro item items hitem hitems
    exact List.forall_mem_cons.mpr ⟨hitem, hitems⟩
  · simp
  · intro field fields hfield hfields
    exact List.forall_mem_cons.mpr ⟨hfield, hfields⟩

/-- `Names` holds of the names of every object in the value, and `Scalar` of every
scalar. -/
inductive Everywhere (Names : List String → Prop) (Scalar : Json → Prop) : Json → Prop
  | object (fields : List (String × Json)) (hnames : Names (fields.map Prod.fst))
      (hvalues : ∀ field ∈ fields, Everywhere Names Scalar field.2) :
      Everywhere Names Scalar (object fields)
  | array (items : List Json) (hitems : ∀ item ∈ items, Everywhere Names Scalar item) :
      Everywhere Names Scalar (array items)
  | scalar (value : Json) (hscalar : value.IsScalar) (hvalue : Scalar value) :
      Everywhere Names Scalar value

section Everywhere

variable {Names : List String → Prop} {Scalar : Json → Prop}

theorem everywhere_object_iff {fields : List (String × Json)} :
    Everywhere Names Scalar (object fields) ↔
      Names (fields.map Prod.fst) ∧ ∀ field ∈ fields, Everywhere Names Scalar field.2 := by
  constructor
  · intro heverywhere
    cases heverywhere with
    | object fields hnames hvalues => exact ⟨hnames, hvalues⟩
    | scalar value hscalar => exact hscalar.elim
  · rintro ⟨hnames, hvalues⟩
    exact .object fields hnames hvalues

theorem everywhere_array_iff {items : List Json} :
    Everywhere Names Scalar (array items) ↔
      ∀ item ∈ items, Everywhere Names Scalar item := by
  constructor
  · intro heverywhere
    cases heverywhere with
    | array items hitems => exact hitems
    | scalar value hscalar => exact hscalar.elim
  · exact .array items

theorem everywhere_scalar_iff {value : Json} (hscalar : value.IsScalar) :
    Everywhere Names Scalar value ↔ Scalar value := by
  constructor
  · intro heverywhere
    cases heverywhere with
    | object fields => exact hscalar.elim
    | array items => exact hscalar.elim
    | scalar value _ hvalue => exact hvalue
  · exact .scalar value hscalar

theorem Everywhere.imp {Names' : List String → Prop} {Scalar' : Json → Prop} {value : Json}
    (heverywhere : Everywhere Names Scalar value)
    (hnames : ∀ names, Names names → Names' names)
    (hscalar : ∀ value : Json, value.IsScalar → Scalar value → Scalar' value) :
    Everywhere Names' Scalar' value := by
  induction heverywhere with
  | object fields hfields _ ih => exact .object fields (hnames _ hfields) ih
  | array items _ ih => exact .array items ih
  | scalar value hkind hvalue => exact .scalar value hkind (hscalar value hkind hvalue)

end Everywhere

/-! ## The order of an object -/

/-- Put a field before the first one whose name is not smaller. -/
def insertField (name : String) (value : Json) :
    List (String × Json) → List (String × Json)
  | [] => [(name, value)]
  | (other, old) :: fields =>
      if other < name then (other, old) :: insertField name value fields
      else (name, value) :: (other, old) :: fields

mutual

def ordered : Json → Json
  | object fields => object (orderedFields fields)
  | array items => array (orderedItems items)
  | value => value

def orderedFields : List (String × Json) → List (String × Json)
  | [] => []
  | (name, value) :: fields => insertField name (ordered value) (orderedFields fields)

def orderedItems : List Json → List Json
  | [] => []
  | value :: items => ordered value :: orderedItems items

end

theorem ordered_of_isScalar {value : Json} (hscalar : value.IsScalar) :
    value.ordered = value := by
  cases value with
  | object fields => exact hscalar.elim
  | array items => exact hscalar.elim
  | _ => rfl

theorem orderedItems_eq_map (items : List Json) : orderedItems items = items.map ordered := by
  induction items with
  | nil => rfl
  | cons value items ih => rw [orderedItems, ih, List.map_cons]

theorem perm_insertField (name : String) (value : Json) (fields : List (String × Json)) :
    (insertField name value fields).Perm ((name, value) :: fields) := by
  induction fields with
  | nil => exact List.Perm.refl _
  | cons head fields ih =>
      obtain ⟨other, old⟩ := head
      rw [insertField]
      split
      · exact (ih.cons (other, old)).trans (List.Perm.swap _ _ fields)
      · exact List.Perm.refl _

theorem perm_orderedFields (fields : List (String × Json)) :
    (orderedFields fields).Perm (fields.map fun field => (field.1, field.2.ordered)) := by
  induction fields with
  | nil => exact List.Perm.refl _
  | cons head fields ih =>
      obtain ⟨name, value⟩ := head
      exact (perm_insertField name value.ordered _).trans (ih.cons (name, value.ordered))

/-- The names of an object are the same in every order. -/
theorem perm_names_orderedFields (fields : List (String × Json)) :
    ((orderedFields fields).map Prod.fst).Perm (fields.map Prod.fst) := by
  have hperm := (perm_orderedFields fields).map Prod.fst
  rwa [List.map_map] at hperm

/-- Reading by a key does not see the order. -/
theorem lookupField_insertField (key name : String) (value : Json)
    (fields : List (String × Json)) :
    lookupField key (insertField name value fields) =
      if name = key then some value else lookupField key fields := by
  induction fields with
  | nil => rfl
  | cons head fields ih =>
      obtain ⟨other, old⟩ := head
      rw [insertField]
      split
      · rename_i hbefore
        rw [lookupField, ih, lookupField]
        by_cases hother : other = key
        · rw [if_pos hother, if_neg (hother ▸ hbefore.ne'), if_pos hother]
        · rw [if_neg hother, if_neg hother]
      · rfl

/-- Reading by a key gives the value that was there, in its own order. -/
theorem lookupField_orderedFields (key : String) (fields : List (String × Json)) :
    lookupField key (orderedFields fields) = (lookupField key fields).map ordered := by
  induction fields with
  | nil => rfl
  | cons head fields ih =>
      obtain ⟨name, value⟩ := head
      rw [orderedFields, lookupField_insertField, ih, lookupField]
      split <;> rfl

theorem pairwise_insertField {name : String} {fields : List (String × Json)}
    (hsorted : (fields.map Prod.fst).Pairwise (· ≤ ·)) (value : Json) :
    ((insertField name value fields).map Prod.fst).Pairwise (· ≤ ·) := by
  induction fields with
  | nil => exact List.pairwise_singleton _ _
  | cons head fields ih =>
      obtain ⟨other, old⟩ := head
      obtain ⟨hother, hfields⟩ := List.pairwise_cons.mp hsorted
      rw [insertField]
      split
      · rename_i hbefore
        refine List.pairwise_cons.mpr ⟨?_, ih hfields⟩
        intro key hkey
        have hkey := ((perm_insertField name value fields).map Prod.fst).mem_iff.mp hkey
        cases List.mem_cons.mp hkey with
        | inl heq => exact heq ▸ hbefore.le
        | inr htail => exact hother key htail
      · rename_i hbefore
        refine List.pairwise_cons.mpr ⟨?_, hsorted⟩
        intro key hkey
        have hfirst := le_of_not_gt hbefore
        cases List.mem_cons.mp hkey with
        | inl heq => exact heq ▸ hfirst
        | inr htail => exact hfirst.trans (hother key htail)

theorem pairwise_orderedFields (fields : List (String × Json)) :
    ((orderedFields fields).map Prod.fst).Pairwise (· ≤ ·) := by
  induction fields with
  | nil => exact List.Pairwise.nil
  | cons head fields ih => exact pairwise_insertField ih head.2.ordered

/-- The first of the names in order stays at the front. -/
theorem insertField_of_le {name : String} {fields : List (String × Json)}
    (hfirst : ∀ key ∈ fields.map Prod.fst, name ≤ key) (value : Json) :
    insertField name value fields = (name, value) :: fields := by
  cases fields with
  | nil => rfl
  | cons head fields =>
      obtain ⟨other, old⟩ := head
      rw [insertField, if_neg (not_lt_of_ge (hfirst other List.mem_cons_self))]

theorem orderedFields_of_pairwise {fields : List (String × Json)}
    (hsorted : (fields.map Prod.fst).Pairwise (· ≤ ·))
    (hvalues : ∀ field ∈ fields, field.2.ordered = field.2) :
    orderedFields fields = fields := by
  induction fields with
  | nil => rfl
  | cons head fields ih =>
      obtain ⟨name, value⟩ := head
      obtain ⟨hfirst, htail⟩ := List.pairwise_cons.mp hsorted
      obtain ⟨hvalue, hrest⟩ := List.forall_mem_cons.mp hvalues
      rw [orderedFields, ih htail hrest, hvalue, insertField_of_le hfirst]

/-- A value in order stays as it is. -/
theorem ordered_ordered (value : Json) : value.ordered.ordered = value.ordered := by
  induction value using tree_induction with
  | object fields ih =>
      rw [ordered, ordered]
      congr 1
      refine orderedFields_of_pairwise (pairwise_orderedFields fields) ?_
      intro field hfield
      have hmem := (perm_orderedFields fields).mem_iff.mp hfield
      obtain ⟨old, hold, rfl⟩ := List.mem_map.mp hmem
      exact ih old hold
  | array items ih =>
      rw [ordered, ordered, orderedItems_eq_map, orderedItems_eq_map, List.map_map]
      congr 1
      exact List.map_congr_left ih
  | scalar value hscalar => rw [ordered_of_isScalar hscalar, ordered_of_isScalar hscalar]

/-- What does not depend on the order holds of the value in order as well. -/
theorem everywhere_ordered {Names : List String → Prop} {Scalar : Json → Prop}
    (hperm : ∀ names other, List.Perm names other → (Names names ↔ Names other)) (value : Json) :
    Everywhere Names Scalar value.ordered ↔ Everywhere Names Scalar value := by
  induction value using tree_induction with
  | object fields ih =>
      rw [ordered, everywhere_object_iff, everywhere_object_iff,
        hperm _ _ (perm_names_orderedFields fields)]
      refine and_congr_right fun _ => ?_
      constructor
      · intro hvalues field hfield
        have hmem := (perm_orderedFields fields).mem_iff.mpr
          (List.mem_map_of_mem (f := fun field => (field.1, field.2.ordered)) hfield)
        exact (ih field hfield).mp (hvalues _ hmem)
      · intro hvalues field hfield
        have hmem := (perm_orderedFields fields).mem_iff.mp hfield
        obtain ⟨old, hold, rfl⟩ := List.mem_map.mp hmem
        exact (ih old hold).mpr (hvalues old hold)
  | array items ih =>
      rw [ordered, everywhere_array_iff, everywhere_array_iff, orderedItems_eq_map,
        List.forall_mem_map]
      exact forall₂_congr ih
  | scalar value hscalar => rw [ordered_of_isScalar hscalar]

end SsP2p.Json

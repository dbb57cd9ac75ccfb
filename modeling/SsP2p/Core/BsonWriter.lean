import SsP2p.Core.Bson

/-!
# What the writer writes

The writer goes over a document twice: once for the sizes, which rejects a name
that holds a zero byte, and once for the bytes, which rejects an integer beyond 64
bits.  Where both passes return, the sizes are those of what was written.
-/

namespace SsP2p.Bson

open Json

/-- A name that a zero byte can end. -/
def CleanName (name : String) : Prop := 0 ∉ bytesOf name

def CleanNames (names : List String) : Prop := ∀ name ∈ names, CleanName name

def FitsInt64 : Json → Prop
  | .integer value => LittleEndian.Fits 8 value
  | _ => True

def NamesClean : Json → Prop := Everywhere CleanNames fun _ => True

def IntegersFit : Json → Prop := Everywhere (fun _ => True) FitsInt64

/-- The index of an array item is written in digits. -/
theorem cleanName_repr (index : ℕ) : CleanName index.repr := by
  intro hzero
  rw [bytesOf, Nat.toList_repr] at hzero
  obtain ⟨digit, hdigit, heq⟩ := List.mem_map.mp hzero
  have hisDigit := Nat.isDigit_of_mem_toDigits (by decide) (by decide) hdigit
  rw [Char.isDigit_iff_toNat] at hisDigit
  have hvalue := congrArg UInt8.toNat heq
  rw [UInt8.toNat_ofNat'] at hvalue
  change digit.toNat % 2 ^ 8 = 0 at hvalue
  have hfirst : '0'.toNat = 48 := rfl
  have hlast : '9'.toNat = 57 := rfl
  omega

/-! ## Arrays

An array is written like an object whose names are the indices. -/

/-- The items with their indices as names. -/
def indexed (arrayIndex : ℕ) : List Json → List (String × Json)
  | [] => []
  | value :: items => (arrayIndex.repr, value) :: indexed (arrayIndex + 1) items

theorem calcItemSizes_eq (arrayIndex : ℕ) (items : List Json) :
    calcItemSizes arrayIndex items = calcFieldSizes (indexed arrayIndex items) := by
  induction items generalizing arrayIndex with
  | nil => rfl
  | cons value items ih => rw [calcItemSizes, indexed, calcFieldSizes, ih]

theorem writeItems_eq (arrayIndex : ℕ) (items : List Json) :
    writeItems arrayIndex items = writeFields (indexed arrayIndex items) := by
  induction items generalizing arrayIndex with
  | nil => rfl
  | cons value items ih => rw [writeItems, indexed, writeFields, ih]

theorem map_snd_indexed (arrayIndex : ℕ) (items : List Json) :
    (indexed arrayIndex items).map Prod.snd = items := by
  induction items generalizing arrayIndex with
  | nil => rfl
  | cons value items ih => rw [indexed, List.map_cons, ih]

theorem mem_of_mem_indexed {arrayIndex : ℕ} {items : List Json} {field : String × Json}
    (hfield : field ∈ indexed arrayIndex items) : field.2 ∈ items :=
  map_snd_indexed arrayIndex items ▸ List.mem_map_of_mem hfield

theorem forall_indexed_iff {property : Json → Prop} (arrayIndex : ℕ) (items : List Json) :
    (∀ field ∈ indexed arrayIndex items, property field.2) ↔ ∀ item ∈ items, property item := by
  conv_rhs => rw [← map_snd_indexed arrayIndex items, List.forall_mem_map]

theorem exists_name_of_mem_indexed {arrayIndex : ℕ} {items : List Json}
    {field : String × Json} (hfield : field ∈ indexed arrayIndex items) :
    ∃ index : ℕ, field.1 = index.repr := by
  induction items generalizing arrayIndex with
  | nil => cases hfield
  | cons value items ih =>
      cases List.mem_cons.mp hfield with
      | inl heq => exact ⟨arrayIndex, heq ▸ rfl⟩
      | inr htail => exact ih htail

/-! ## What a pass decides -/

/-- A pass returns where `accepts` holds, with a value that meets `post`, and raises `id`
elsewhere. -/
def Decides {Value : Type} (id : ℕ) (accepts : Prop) (post : Value → Prop)
    (result : Except OutOfRange Value) : Prop :=
  (accepts ∧ ∃ value, result = .ok value ∧ post value) ∨
    (¬ accepts ∧ ∃ text, result = .error ⟨id, text⟩)

section Decides

variable {Value Result : Type} {id : ℕ} {accepts accepts' : Prop} {post : Value → Prop}
  {post' : Result → Prop} {first : Except OutOfRange Value}

theorem Decides.bind {rest : Value → Except OutOfRange Result}
    (hfirst : Decides id accepts post first)
    (hrest : ∀ value, post value → Decides id accepts' post' (rest value)) :
    Decides id (accepts ∧ accepts') post' (first >>= rest) := by
  obtain ⟨haccepts, value, rfl, hpost⟩ | ⟨haccepts, text, rfl⟩ := hfirst
  · obtain ⟨haccepts', hresult⟩ | ⟨haccepts', hresult⟩ := hrest value hpost
    · exact .inl ⟨⟨haccepts, haccepts'⟩, hresult⟩
    · exact .inr ⟨fun hboth => haccepts' hboth.2, hresult⟩
  · exact .inr ⟨fun hboth => haccepts hboth.1, text, rfl⟩

/-- The last step of a pass never raises. -/
theorem Decides.map {change : Value → Result} (hfirst : Decides id accepts post first)
    (hpost : ∀ value, post value → post' (change value)) :
    Decides id accepts post' (first >>= fun value => pure (change value)) := by
  obtain ⟨haccepts, value, rfl, hvalue⟩ | ⟨haccepts, text, rfl⟩ := hfirst
  · exact .inl ⟨haccepts, change value, rfl, hpost value hvalue⟩
  · exact .inr ⟨haccepts, text, rfl⟩

theorem decides_ok {value : Value} (haccepts : accepts) (hpost : post value) :
    Decides id accepts post (.ok value) :=
  .inl ⟨haccepts, value, rfl, hpost⟩

theorem Decides.congr (hfirst : Decides id accepts post first) (hiff : accepts ↔ accepts') :
    Decides id accepts' post first := by
  rwa [← propext hiff]

end Decides

/-! ## The pass over the sizes -/

theorem decides_calcBsonEntryHeaderSize (name : String) :
    Decides 409 (CleanName name) (· = (bytesOf name).length + 2)
      (calcBsonEntryHeaderSize name) := by
  rw [calcBsonEntryHeaderSize]
  cases hposition : (bytesOf name).idxOf? 0 with
  | none => exact decides_ok (List.idxOf?_eq_none_iff.mp hposition) rfl
  | some position =>
      refine .inr ⟨fun hclean => ?_, _, rfl⟩
      rw [List.idxOf?_eq_none_iff.mpr hclean] at hposition
      cases hposition

theorem decides_calcFieldSizes {fields : List (String × Json)}
    (hvalues : ∀ field ∈ fields, ∀ name,
      Decides 409 (CleanName name ∧ NamesClean field.2) (fun _ => True)
        (calcBsonElementSize name field.2)) :
    Decides 409 (∀ field ∈ fields, CleanName field.1 ∧ NamesClean field.2) (fun _ => True)
      (calcFieldSizes fields) := by
  induction fields with
  | nil => exact decides_ok (by simp) trivial
  | cons head fields ih =>
      obtain ⟨name, value⟩ := head
      obtain ⟨hvalue, hfields⟩ := List.forall_mem_cons.mp hvalues
      rw [calcFieldSizes]
      refine ((hvalue name).bind fun _ _ => (ih hfields).map fun _ _ => trivial).congr ?_
      rw [List.forall_mem_cons]

theorem namesClean_object_iff {fields : List (String × Json)} :
    NamesClean (.object fields) ↔ ∀ field ∈ fields, CleanName field.1 ∧ NamesClean field.2 := by
  rw [NamesClean, everywhere_object_iff, CleanNames, List.forall_mem_map]
  exact forall₂_and.symm

/-- The first pass raises on a name with a zero byte, and on nothing else. -/
theorem decides_calcBsonElementSize (name : String) (value : Json) :
    Decides 409 (CleanName name ∧ NamesClean value) (fun _ => True)
      (calcBsonElementSize name value) := by
  have hheader := decides_calcBsonEntryHeaderSize name
  induction value using tree_induction generalizing name with
  | object fields ih =>
      have hfields := decides_calcFieldSizes fun field hfield name =>
        ih field hfield name (decides_calcBsonEntryHeaderSize name)
      rw [calcBsonElementSize]
      refine (hheader.bind fun _ _ => hfields.map fun _ _ => trivial).congr ?_
      rw [namesClean_object_iff]
  | array items ih =>
      have hitems : Decides 409 _ _ (calcFieldSizes (indexed 0 items)) :=
        decides_calcFieldSizes fun field hfield name =>
          ih field.2 (mem_of_mem_indexed hfield) name (decides_calcBsonEntryHeaderSize name)
      rw [← calcItemSizes_eq] at hitems
      rw [calcBsonElementSize]
      refine (hheader.bind fun _ _ => hitems.map fun _ _ => trivial).congr ?_
      rw [NamesClean, everywhere_array_iff, ← forall_indexed_iff 0 items]
      refine and_congr_right fun _ => forall₂_congr fun field hfield => ?_
      obtain ⟨index, hindex⟩ := exists_name_of_mem_indexed hfield
      rw [hindex, and_iff_right (cleanName_repr index)]
  | scalar value hscalar =>
      have hnames : NamesClean value ↔ True := everywhere_scalar_iff hscalar
      rw [hnames, and_true]
      cases value with
      | object fields => exact hscalar.elim
      | array items => exact hscalar.elim
      | _ =>
          rw [calcBsonElementSize]
          exact hheader.map fun _ _ => trivial

theorem decides_calcBsonObjectSize (fields : List (String × Json)) :
    Decides 409 (NamesClean (.object fields)) (fun _ => True) (calcBsonObjectSize fields) := by
  rw [namesClean_object_iff, calcBsonObjectSize]
  exact (decides_calcFieldSizes fun field _ name =>
    decides_calcBsonElementSize name field.2).map fun _ _ => trivial

/-! ## The pass over the bytes -/

/-- The first pass over a name that it accepts. -/
theorem calcBsonEntryHeaderSize_eq_ok {name : String} {size : ℕ}
    (hsize : calcBsonEntryHeaderSize name = .ok size) : size = (bytesOf name).length + 2 := by
  obtain ⟨-, value, hvalue, hlength⟩ | ⟨-, text, hfault⟩ :=
    decides_calcBsonEntryHeaderSize name
  · rw [hvalue] at hsize
    rw [← Except.ok.inj hsize, hlength]
  · rw [hfault] at hsize
    cases hsize

theorem length_writeBsonEntryHeader (name : String) (elementType : UInt8) :
    (writeBsonEntryHeader name elementType).length = (bytesOf name).length + 2 := by
  rw [writeBsonEntryHeader, List.length_append, List.length_cons, List.length_singleton]

theorem integersFit_object_iff {fields : List (String × Json)} :
    IntegersFit (.object fields) ↔ ∀ field ∈ fields, IntegersFit field.2 := by
  rw [IntegersFit, everywhere_object_iff, and_iff_right trivial]

theorem decides_writeFields {fields : List (String × Json)} {size : ℕ}
    (hvalues : ∀ field ∈ fields, ∀ name size, calcBsonElementSize name field.2 = .ok size →
      Decides 407 (IntegersFit field.2) (·.length = size) (writeBsonElement name field.2))
    (hsize : calcFieldSizes fields = .ok size) :
    Decides 407 (∀ field ∈ fields, IntegersFit field.2) (·.length = size)
      (writeFields fields) := by
  induction fields generalizing size with
  | nil =>
      cases hsize
      exact decides_ok (by simp) rfl
  | cons head fields ih =>
      obtain ⟨name, value⟩ := head
      obtain ⟨hvalue, hfields⟩ := List.forall_mem_cons.mp hvalues
      simp only [calcFieldSizes, Fallible.bind_eq_ok, Fallible.pure_eq_ok] at hsize
      obtain ⟨first, hfirst, rest, hrest, rfl⟩ := hsize
      rw [writeFields]
      refine ((hvalue name first hfirst).bind fun element helement =>
        (ih hfields hrest).map fun elements helements => ?_).congr ?_
      · rw [List.length_append, helement, helements]
      · rw [List.forall_mem_cons]

theorem decides_writeBsonInteger (name : String) (value : ℤ) :
    Decides 407 (LittleEndian.Fits 8 value)
      (·.length = (bytesOf name).length + 2 + calcBsonIntegerSize value)
      (writeBsonInteger name value) := by
  rw [writeBsonInteger, calcBsonIntegerSize]
  by_cases hshort : LittleEndian.Fits 4 value
  · rw [if_pos hshort, if_pos hshort]
    refine decides_ok ?_ ?_
    · unfold LittleEndian.Fits at hshort ⊢
      omega
    · rw [List.length_append, length_writeBsonEntryHeader, LittleEndian.length_encodeInt]
  · rw [if_neg hshort, if_neg hshort]
    by_cases hfits : LittleEndian.Fits 8 value
    · rw [if_pos hfits]
      refine decides_ok hfits ?_
      rw [List.length_append, length_writeBsonEntryHeader, LittleEndian.length_encodeInt]
    · rw [if_neg hfits]
      exact .inr ⟨hfits, _, rfl⟩

/-- Where the first pass returned, the second one raises on an integer beyond 64 bits
and on nothing else, and what it writes has the size that the first pass found. -/
theorem decides_writeBsonElement (name : String) (value : Json) (size : ℕ)
    (hsize : calcBsonElementSize name value = .ok size) :
    Decides 407 (IntegersFit value) (·.length = size) (writeBsonElement name value) := by
  rw [calcBsonElementSize, Fallible.bind_eq_ok] at hsize
  obtain ⟨header, hheader, hsize⟩ := hsize
  have hlength := calcBsonEntryHeaderSize_eq_ok hheader
  induction value using tree_induction generalizing name size header with
  | object fields ih =>
      simp only [Fallible.bind_eq_ok, Fallible.pure_eq_ok] at hsize
      obtain ⟨rest, hrest, rfl⟩ := hsize
      have hdocument : calcBsonObjectSize fields = .ok (rest + 5) := by
        rw [calcBsonObjectSize, hrest]
        rfl
      have hfields := decides_writeFields (fun field hfield name size hsize => by
        rw [calcBsonElementSize, Fallible.bind_eq_ok] at hsize
        obtain ⟨header, hheader, hsize⟩ := hsize
        exact ih field hfield name size header hheader hsize
          (calcBsonEntryHeaderSize_eq_ok hheader)) hrest
      rw [writeBsonElement, hdocument, Fallible.ok_bind]
      refine (hfields.map fun elements helements => ?_).congr integersFit_object_iff.symm
      simp only [List.length_append, length_writeBsonEntryHeader,
        LittleEndian.length_encodeInt, helements, List.length_singleton]
      omega
  | array items ih =>
      simp only [Fallible.bind_eq_ok, Fallible.pure_eq_ok] at hsize
      obtain ⟨rest, hrest, rfl⟩ := hsize
      have hdocument : calcBsonArraySize items = .ok (rest + 5) := by
        rw [calcBsonArraySize, hrest]
        rfl
      rw [calcItemSizes_eq] at hrest
      have hitems := decides_writeFields (fun field hfield name size hsize => by
        rw [calcBsonElementSize, Fallible.bind_eq_ok] at hsize
        obtain ⟨header, hheader, hsize⟩ := hsize
        exact ih field.2 (mem_of_mem_indexed hfield) name size header hheader hsize
          (calcBsonEntryHeaderSize_eq_ok hheader)) hrest
      rw [writeBsonElement, hdocument, Fallible.ok_bind, writeItems_eq]
      refine (hitems.map fun elements helements => ?_).congr
        ((forall_indexed_iff 0 items).trans everywhere_array_iff.symm)
      simp only [List.length_append, length_writeBsonEntryHeader,
        LittleEndian.length_encodeInt, helements, List.length_singleton]
      omega
  | scalar value hscalar =>
      refine Decides.congr ?_ (everywhere_scalar_iff hscalar).symm
      cases value with
      | object fields => exact hscalar.elim
      | array items => exact hscalar.elim
      | integer value =>
          cases hsize
          rw [hlength]
          exact decides_writeBsonInteger name value
      | string text =>
          cases hsize
          refine decides_ok trivial ?_
          simp only [writeBsonString, List.length_append, List.length_singleton,
            length_writeBsonEntryHeader, LittleEndian.length_encodeInt, calcBsonStringSize,
            hlength]
          omega
      | binary bytes subtype =>
          cases hsize
          refine decides_ok trivial ?_
          simp only [writeBsonBinary, List.length_append, List.length_cons,
            length_writeBsonEntryHeader, LittleEndian.length_encodeInt, calcBsonBinarySize,
            hlength]
          omega
      | _ =>
          cases hsize
          refine decides_ok trivial ?_
          simp only [List.length_append, List.length_singleton, length_writeBsonEntryHeader,
            LittleEndian.length_encode, hlength]

theorem names_perm_iff (names other : List String) (hperm : names.Perm other) :
    CleanNames names ↔ CleanNames other :=
  forall_congr' fun _ => imp_congr_left hperm.mem_iff

/-- The writer returns exactly on a document whose names hold no zero byte and whose
integers fit into 64 bits; then the document starts with its own length.  A name is
rejected before any integer is looked at. -/
theorem toBson_outcome (fields : List (String × Json)) :
    (NamesClean (.object fields) ∧ IntegersFit (.object fields) ∧
        ∃ elements, toBson fields =
          .ok (LittleEndian.encodeInt 4 (elements.length + 5) ++ elements ++ [0])) ∨
      (¬ NamesClean (.object fields) ∧ ∃ text, toBson fields = .error ⟨409, text⟩) ∨
      (NamesClean (.object fields) ∧ ¬ IntegersFit (.object fields) ∧
        ∃ text, toBson fields = .error ⟨407, text⟩) := by
  have hnames : NamesClean (.object (orderedFields fields)) ↔ NamesClean (.object fields) :=
    everywhere_ordered names_perm_iff (.object fields)
  have hintegers : IntegersFit (.object (orderedFields fields)) ↔
      IntegersFit (.object fields) :=
    everywhere_ordered (fun _ _ _ => Iff.rfl) (.object fields)
  rw [← hnames, ← hintegers, toBson]
  generalize orderedFields fields = written
  rw [writeBsonObject]
  obtain ⟨hclean, size, hsize, -⟩ | ⟨hclean, text, hfault⟩ := decides_calcBsonObjectSize written
  · have hrest := hsize
    simp only [calcBsonObjectSize, Fallible.bind_eq_ok, Fallible.pure_eq_ok] at hrest
    obtain ⟨rest, hrest, rfl⟩ := hrest
    have hfields := (decides_writeFields (fun field _ name size =>
      decides_writeBsonElement name field.2 size) hrest).congr integersFit_object_iff.symm
    rw [hsize, Fallible.ok_bind]
    obtain ⟨hfit, elements, helements, hlength⟩ | ⟨hfit, text, hfault⟩ := hfields
    · refine .inl ⟨hclean, hfit, elements, ?_⟩
      rw [helements, Fallible.ok_bind, hlength]
      rfl
    · refine .inr (.inr ⟨hclean, hfit, text, ?_⟩)
      rw [hfault, Fallible.error_bind]
  · refine .inr (.inl ⟨hclean, text, ?_⟩)
    rw [hfault, Fallible.error_bind]

end SsP2p.Bson

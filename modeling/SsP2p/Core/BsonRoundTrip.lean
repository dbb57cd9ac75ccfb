import SsP2p.Core.BsonReader
import SsP2p.Core.BsonWriter

/-!
# Round trips through BSON

A document whose names are distinct and free of zero bytes, whose integers fit into
64 bits and whose strings have a length that fits into 32 bits is read back from what
was written, with its objects in order.
-/

namespace SsP2p.Bson

open Json Reader

/-- A `String` that stands for a `std::string`: one character for each byte. -/
def ByteText (text : String) : Prop := ∀ c ∈ text.toList, c.toNat < 256

instance (text : String) : Decidable (ByteText text) :=
  List.decidableBAll (fun c : Char => c.toNat < 256) text.toList

instance (name : String) : Decidable (CleanName name) :=
  inferInstanceAs (Decidable (0 ∉ bytesOf name))

/-- The names of an object that the writer accepts. -/
def DocumentNames (names : List String) : Prop :=
  names.Nodup ∧ ∀ name ∈ names, ByteText name ∧ CleanName name

instance (names : List String) : Decidable (DocumentNames names) :=
  inferInstanceAs (Decidable (names.Nodup ∧ ∀ name ∈ names, ByteText name ∧ CleanName name))

/-- A scalar whose length or value fits into its field on the wire; a binary is always read
with a subtype, which is a byte. -/
def DocumentScalar : Json → Prop
  | .integer value => LittleEndian.Fits 8 value
  | .string text => ByteText text ∧ LittleEndian.Fits 4 ((bytesOf text).length + 1)
  | .binary bytes subtype =>
      LittleEndian.Fits 4 bytes.length ∧ ∃ byte : UInt8, subtype = some byte.toUInt64
  | _ => True

def Encodable : Json → Prop := Everywhere DocumentNames DocumentScalar

/-! ## Texts and bytes -/

theorem stringOf_bytesOf {text : String} (htext : ByteText text) :
    stringOf (bytesOf text) = text := by
  have hchars : (bytesOf text).map (fun byte => Char.ofNat byte.toNat) = text.toList := by
    rw [bytesOf, List.map_map]
    refine (List.map_congr_left fun c hc => ?_).trans (List.map_id _)
    have hbyte : c.toNat % 2 ^ 8 = c.toNat := Nat.mod_eq_of_lt (htext c hc)
    rw [Function.comp_apply, UInt8.toNat_ofNat', hbyte, Char.ofNat_toNat, id]
  rw [stringOf, hchars, String.ofList_toList]

theorem toNat_ofNat_toNat (byte : UInt8) : (Char.ofNat byte.toNat).toNat = byte.toNat := by
  have hvalid : byte.toNat.isValidChar := .inl (byte.toNat_lt.trans (by decide))
  rw [Char.ofNat, dif_pos hvalid]
  rfl

theorem bytesOf_stringOf (bytes : List UInt8) : bytesOf (stringOf bytes) = bytes := by
  rw [bytesOf, stringOf, String.toList_ofList, List.map_map]
  refine (List.map_congr_left fun byte _ => ?_).trans (List.map_id _)
  rw [Function.comp_apply, toNat_ofNat_toNat, UInt8.ofNat_toNat, id]

theorem byteText_stringOf (bytes : List UInt8) : ByteText (stringOf bytes) := by
  intro c hc
  rw [stringOf, String.toList_ofList] at hc
  obtain ⟨byte, -, rfl⟩ := List.mem_map.mp hc
  rw [toNat_ofNat_toNat]
  exact byte.toNat_lt

/-! ## The parts of an element -/

theorem getBytes_append (bytes rest : List UInt8) :
    getBytes bytes.length (bytes ++ rest) = .ok (bytes, rest) := by
  rw [getBytes, if_pos (by rw [List.length_append]; omega), List.take_left, List.drop_left]

theorem getNumber_encode {width value : ℕ} (hvalue : value < 256 ^ width)
    (rest : List UInt8) :
    getNumber width (LittleEndian.encode width value ++ rest) = .ok (value, rest) := by
  have hbytes := getBytes_append (LittleEndian.encode width value) rest
  rw [LittleEndian.length_encode] at hbytes
  rw [getNumber, andThen_of_ok hbytes, done, LittleEndian.decode_encode,
    Nat.mod_eq_of_lt hvalue]

/-- Whatever was written as a number of this width can be read. -/
theorem getInt_encodeInt (width : ℕ) (value : ℤ) (rest : List UInt8) :
    ∃ read, getInt width (LittleEndian.encodeInt width value ++ rest) = .ok (read, rest) ∧
      (LittleEndian.Fits width value → read = value) := by
  have hbytes := getBytes_append (LittleEndian.encodeInt width value) rest
  rw [LittleEndian.length_encodeInt] at hbytes
  refine ⟨_, ?_, LittleEndian.toInt_decode_encodeInt⟩
  rw [getInt, getNumber, andThen_of_ok (andThen_of_ok hbytes)]
  rfl

theorem getInt_of_fits {width : ℕ} {value : ℤ} (hfits : LittleEndian.Fits width value)
    (rest : List UInt8) :
    getInt width (LittleEndian.encodeInt width value ++ rest) = .ok (value, rest) := by
  obtain ⟨read, hread, hvalue⟩ := getInt_encodeInt width value rest
  rw [hread, hvalue hfits]

theorem getBsonCstr_append {bytes : List UInt8} (hclean : 0 ∉ bytes) (rest : List UInt8) :
    getBsonCstr (bytes ++ 0 :: rest) = .ok (bytes, rest) := by
  induction bytes with
  | nil => rfl
  | cons byte bytes ih =>
      have hbyte : byte ≠ 0 := fun heq => hclean (heq ▸ List.mem_cons_self)
      rw [List.cons_append, getBsonCstr, if_neg hbyte,
        ih fun hmem => hclean (List.mem_cons_of_mem byte hmem)]
      rfl

theorem getBsonString_append {text : String} (htext : ByteText text) (rest : List UInt8) :
    getBsonString ((bytesOf text).length + 1) (bytesOf text ++ 0 :: rest) =
      .ok (text, rest) := by
  have hbytes := getBytes_append (bytesOf text) (0 :: rest)
  rw [getBsonString, if_neg (by omega), Int.add_sub_cancel, Int.toNat_natCast,
    andThen_of_ok hbytes]
  rw [andThen_of_ok (show skipTerminator (0 :: rest) = .ok ((), rest) from rfl), done,
    stringOf_bytesOf htext]

theorem getNumber_cons (byte : UInt8) (rest : List UInt8) :
    getNumber 1 (byte :: rest) = .ok (byte.toNat, rest) := by
  have hbytes : getBytes 1 (byte :: rest) = .ok ([byte], rest) := getBytes_append [byte] rest
  rw [getNumber, andThen_of_ok hbytes, done, LittleEndian.decode, LittleEndian.decode,
    Nat.mul_zero, Nat.add_zero]

theorem getBsonBinary_append (bytes : List UInt8) (byte : UInt8) (rest : List UInt8) :
    getBsonBinary bytes.length (byte :: (bytes ++ rest)) =
      .ok (.binary bytes (some byte.toUInt64), rest) := by
  rw [getBsonBinary, if_neg (by omega), Int.toNat_natCast,
    andThen_of_ok (getNumber_cons byte _), andThen_of_ok (getBytes_append bytes rest), done,
    UInt64.ofNat_uInt8ToNat]

/-! ## Objects -/

theorem assignField_of_notMem {key : String} {fields : List (String × Json)}
    (hkey : key ∉ fields.map Prod.fst) (value : Json) :
    assignField key value fields = fields ++ [(key, value)] := by
  induction fields with
  | nil => rfl
  | cons head fields ih =>
      obtain ⟨name, old⟩ := head
      rw [List.map_cons, List.mem_cons, not_or] at hkey
      rw [assignField, if_neg (Ne.symm hkey.1), ih hkey.2, List.cons_append]

/-- Distinct names are assigned one after the other. -/
theorem ofElements_of_nodup {elements : List (String × Json)}
    (hnodup : (elements.map Prod.fst).Nodup) : ofElements elements = elements := by
  suffices hsuffices : ∀ fields : List (String × Json),
      ((fields ++ elements).map Prod.fst).Nodup →
        elements.foldl (fun fields element => assignField element.1 element.2 fields) fields =
          fields ++ elements from hsuffices [] hnodup
  clear hnodup
  induction elements with
  | nil => exact fun fields _ => (List.append_nil fields).symm
  | cons element elements ih =>
      intro fields hnodup
      have hkey : element.1 ∉ fields.map Prod.fst := by
        intro hmem
        rw [List.map_append, List.map_cons, List.nodup_append] at hnodup
        exact hnodup.2.2 element.1 hmem element.1 List.mem_cons_self rfl
      rw [List.foldl_cons, assignField_of_notMem hkey, ih, List.append_assoc,
        List.singleton_append]
      rwa [List.append_assoc, List.singleton_append]

/-- The bytes of an element as the reader takes them apart. -/
def ReadsBack (name : String) (value : Json) (bytes : List UInt8) : Prop :=
  ∃ elementType body, elementType ≠ 0 ∧
    bytes = writeBsonEntryHeader name elementType ++ body ∧ ∀ rest,
      parseBsonElementInternal parseBsonElementList elementType (body ++ rest) =
        .ok (value, rest)

/-- What was written for some fields is read back, up to the zero byte behind them. -/
theorem parseBsonElementList_writeFields {fields : List (String × Json)} {bytes : List UInt8}
    (hnames : ∀ field ∈ fields, ByteText field.1 ∧ CleanName field.1)
    (hvalues : ∀ field ∈ fields, ∀ name bytes, writeBsonElement name field.2 = .ok bytes →
      ReadsBack name field.2 bytes)
    (hwrite : writeFields fields = .ok bytes) (rest : List UInt8) :
    parseBsonElementList (bytes ++ 0 :: rest) = .ok (fields, rest) := by
  induction fields generalizing bytes with
  | nil =>
      cases hwrite
      exact parseBsonElementList_zero rest
  | cons head fields ih =>
      obtain ⟨name, value⟩ := head
      obtain ⟨⟨htext, hclean⟩, hnames⟩ := List.forall_mem_cons.mp hnames
      obtain ⟨hvalue, hvalues⟩ := List.forall_mem_cons.mp hvalues
      simp only [writeFields, Fallible.bind_eq_ok, Fallible.pure_eq_ok] at hwrite
      obtain ⟨element, helement, elements, helements, rfl⟩ := hwrite
      obtain ⟨elementType, body, htype, rfl, hbody⟩ := hvalue name element helement
      have hinput : writeBsonEntryHeader name elementType ++ body ++ elements ++ 0 :: rest =
          elementType :: (bytesOf name ++ 0 :: (body ++ (elements ++ 0 :: rest))) := by
        simp [writeBsonEntryHeader]
      rw [hinput, parseBsonElementList_cons htype, parseBsonElement,
        andThen_of_ok (getBsonCstr_append hclean _), andThen_of_ok (hbody _),
        andThen_of_ok (ih hnames hvalues helements), done, stringOf_bytesOf htext]

theorem byteText_repr (index : ℕ) : ByteText index.repr := by
  intro digit hdigit
  rw [Nat.toList_repr] at hdigit
  have hisDigit := Nat.isDigit_of_mem_toDigits (by decide) (by decide) hdigit
  rw [Char.isDigit_iff_toNat] at hisDigit
  have hlast : '9'.toNat = 57 := rfl
  omega

/-- The bytes of an element are read back. -/
theorem readsBack_of_encodable {value : Json} (hencodable : Encodable value) {name : String}
    {bytes : List UInt8} (hwrite : writeBsonElement name value = .ok bytes) :
    ReadsBack name value bytes := by
  induction hencodable generalizing name bytes with
  | object fields hnames hvalues ih =>
      simp only [writeBsonElement, Fallible.bind_eq_ok, Fallible.pure_eq_ok] at hwrite
      obtain ⟨size, -, elements, helements, rfl⟩ := hwrite
      refine ⟨0x03, _, by decide, rfl, fun rest => ?_⟩
      obtain ⟨read, hread, -⟩ := getInt_encodeInt 4 size (elements ++ 0 :: rest)
      have hlist := parseBsonElementList_writeFields
        (fun field hfield => hnames.2 _ (List.mem_map_of_mem hfield))
        (fun field hfield name bytes => ih field hfield) helements rest
      have hinput : LittleEndian.encodeInt 4 size ++ elements ++ [0] ++ rest =
          LittleEndian.encodeInt 4 size ++ (elements ++ 0 :: rest) := by simp
      rw [parseBsonElementInternal_object, parseBsonInternal, hinput, andThen_of_ok hread,
        andThen_of_ok hlist, done, ofElements_of_nodup hnames.1]
  | array items hitems ih =>
      simp only [writeBsonElement, Fallible.bind_eq_ok, Fallible.pure_eq_ok] at hwrite
      obtain ⟨size, -, elements, helements, rfl⟩ := hwrite
      refine ⟨0x04, _, by decide, rfl, fun rest => ?_⟩
      obtain ⟨read, hread, -⟩ := getInt_encodeInt 4 size (elements ++ 0 :: rest)
      rw [writeItems_eq] at helements
      have hlist := parseBsonElementList_writeFields
        (fun field hfield => by
          obtain ⟨index, hindex⟩ := exists_name_of_mem_indexed hfield
          exact hindex ▸ ⟨byteText_repr index, cleanName_repr index⟩)
        (fun field hfield name bytes => ih field.2 (mem_of_mem_indexed hfield)) helements rest
      have hinput : LittleEndian.encodeInt 4 size ++ elements ++ [0] ++ rest =
          LittleEndian.encodeInt 4 size ++ (elements ++ 0 :: rest) := by simp
      rw [parseBsonElementInternal_array, parseBsonArray, hinput, andThen_of_ok hread,
        andThen_of_ok hlist, done, map_snd_indexed]
  | scalar value hscalar hvalue =>
      cases value with
      | object fields => exact hscalar.elim
      | array items => exact hscalar.elim
      | null =>
          cases hwrite
          exact ⟨0x0A, [], by decide, (List.append_nil _).symm, fun rest => rfl⟩
      | boolean value =>
          cases hwrite
          refine ⟨0x08, _, by decide, rfl, fun rest => ?_⟩
          cases value <;> rfl
      | integer value =>
          rw [writeBsonElement, writeBsonInteger] at hwrite
          split at hwrite
          · rename_i hfits
            cases hwrite
            refine ⟨0x10, _, by decide, rfl, fun rest => ?_⟩
            rw [parseBsonElementInternal_int32, andThen_of_ok (getInt_of_fits hfits rest)]
            rfl
          · have hfits : LittleEndian.Fits 8 value := hvalue
            rw [if_pos hfits] at hwrite
            cases hwrite
            refine ⟨0x12, _, by decide, rfl, fun rest => ?_⟩
            rw [parseBsonElementInternal_int64, andThen_of_ok (getInt_of_fits hfits rest)]
            rfl
      | float bits =>
          cases hwrite
          refine ⟨0x01, _, by decide, rfl, fun rest => ?_⟩
          rw [parseBsonElementInternal_double,
            andThen_of_ok (getNumber_encode bits.toNat_lt rest), UInt64.ofNat_toNat]
          rfl
      | string text =>
          cases hwrite
          refine ⟨0x02, _, by decide, rfl, fun rest => ?_⟩
          have hinput : LittleEndian.encodeInt 4 ((bytesOf text).length + 1) ++ bytesOf text ++
              [0] ++ rest = LittleEndian.encodeInt 4 ((bytesOf text).length + 1) ++
                (bytesOf text ++ 0 :: rest) := by simp
          rw [parseBsonElementInternal_string, hinput,
            andThen_of_ok (getInt_of_fits hvalue.2 _),
            andThen_of_ok (getBsonString_append hvalue.1 rest)]
          rfl
      | binary bytes subtype =>
          cases hwrite
          obtain ⟨hlength, byte, rfl⟩ := hvalue
          refine ⟨0x05, _, by decide, rfl, fun rest => ?_⟩
          have hinput : LittleEndian.encodeInt 4 bytes.length ++
              (some byte.toUInt64).elim 0 UInt64.toUInt8 :: bytes ++ rest =
                LittleEndian.encodeInt 4 bytes.length ++ byte :: (bytes ++ rest) := by simp
          rw [parseBsonElementInternal_binary, hinput,
            andThen_of_ok (getInt_of_fits hlength _), getBsonBinary_append]

theorem documentNames_perm (names other : List String) (hperm : names.Perm other) :
    DocumentNames names ↔ DocumentNames other :=
  and_congr hperm.nodup_iff (forall_congr' fun _ => imp_congr_left hperm.mem_iff)

/-- What is read survives, so it can be written. -/
theorem exists_toBson_of_encodable {fields : List (String × Json)}
    (hencodable : Encodable (.object fields)) : ∃ bytes, toBson fields = .ok bytes := by
  have hclean : NamesClean (.object fields) :=
    hencodable.imp (fun _ hnames name hname => (hnames.2 name hname).2) fun _ _ _ => trivial
  have hfit : IntegersFit (.object fields) := by
    refine hencodable.imp (fun _ _ => trivial) fun value _ hvalue => ?_
    cases value with
    | integer value => exact hvalue
    | _ => trivial
  obtain ⟨-, -, elements, helements⟩ | ⟨hnot, -⟩ | ⟨-, hnot, -⟩ := toBson_outcome fields
  · exact ⟨_, helements⟩
  · exact (hnot hclean).elim
  · exact (hnot hfit).elim

/-- `decode` undoes `encode`: an encodable document is written, and what was written is
read back as that document with its objects in order. -/
theorem fromBson_toBson (fields : List (String × Json))
    (hencodable : Encodable (.object fields)) :
    ∃ bytes, toBson fields = .ok bytes ∧
      fromBson bytes = .ok (Json.object fields).ordered := by
  obtain ⟨bytes, hbytes⟩ := exists_toBson_of_encodable hencodable
  have hordered : Encodable (.object (orderedFields fields)) :=
    (everywhere_ordered documentNames_perm (.object fields)).mpr hencodable
  obtain ⟨hnames, hvalues⟩ := everywhere_object_iff.mp hordered
  have hwrite := hbytes
  simp only [toBson, writeBsonObject, Fallible.bind_eq_ok, Fallible.pure_eq_ok] at hwrite
  obtain ⟨size, -, elements, helements, rfl⟩ := hwrite
  refine ⟨_, hbytes, ?_⟩
  have hlist := parseBsonElementList_writeFields
    (fun field hfield => hnames.2 _ (List.mem_map_of_mem hfield))
    (fun field hfield name bytes => readsBack_of_encodable (hvalues field hfield))
    helements []
  obtain ⟨read, hread, -⟩ := getInt_encodeInt 4 size (elements ++ [0])
  rw [fromBson, parseBsonInternal, List.append_assoc, andThen_of_ok hread,
    andThen_of_ok hlist, done, ofElements_of_nodup hnames.1]
  rfl

/-- The document `{"b": "x", "a": {"c": null}}`, with a binary of subtype 128, comes back in
the order of its names. -/
theorem fromBson_toBson_nested :
    ∃ bytes, toBson [("b", .string "x"), ("a", .object [("c", .null)]),
        ("d", .binary [7] (some 128))] = .ok bytes ∧
      fromBson bytes =
        .ok (Json.object [("b", .string "x"), ("a", .object [("c", .null)]),
          ("d", .binary [7] (some 128))]).ordered := by
  refine fromBson_toBson _ (.object _ (by decide) ?_)
  simp only [List.forall_mem_cons]
  refine ⟨?_, ?_, ?_, nofun⟩
  · exact .scalar _ trivial ⟨by decide, by decide⟩
  · refine .object _ (by decide) (List.forall_mem_singleton.mpr ?_)
    exact .scalar _ trivial trivial
  · exact .scalar _ trivial ⟨by decide, 128, rfl⟩

end SsP2p.Bson

import SsP2p.Core.BsonRoundTrip

/-!
# What the reader accepts

Whatever the bytes, a document that is read can be written again, and no document
is the front part of another one: a datagram that was cut off, or that has
something behind its document, is never taken for a message.
-/

namespace SsP2p.Bson

open Json Reader

theorem yields_getBytes (length : ℕ) :
    (getBytes length).Yields fun bytes => bytes.length = length := by
  intro input value rest hread
  rw [getBytes] at hread
  split at hread
  · rename_i henough
    obtain ⟨rfl, -⟩ := Prod.mk.inj (Except.ok.inj hread)
    rw [List.length_take, Nat.min_eq_left henough]
  · cases hread

theorem yields_getInt {width : ℕ} (hwidth : 0 < width) :
    (getInt width).Yields (LittleEndian.Fits width) :=
  (yields_true _).andThen fun value _ =>
    yields_done (LittleEndian.fits_toInt width value hwidth)

theorem yields_getBsonCstr : getBsonCstr.Yields (0 ∉ ·) := by
  intro input
  induction input with
  | nil =>
      intro value rest hread
      cases hread
  | cons byte input ih =>
      intro value rest hread
      rw [getBsonCstr] at hread
      split at hread
      · cases hread
        exact List.not_mem_nil
      · rename_i hbyte
        obtain ⟨⟨result, left⟩, hresult, hread⟩ := Fallible.bind_eq_ok.mp hread
        cases hread
        rw [List.mem_cons, not_or]
        exact ⟨Ne.symm hbyte, ih hresult⟩

/-- A string that is read is as long as its length said. -/
theorem yields_getBsonString {len : ℤ} (hlen : LittleEndian.Fits 4 len) :
    (getBsonString len).Yields fun text => DocumentScalar (.string text) := by
  rw [getBsonString]
  split
  · exact yields_stop _
  · refine (yields_getBytes _).andThen fun bytes hbytes =>
      (yields_true _).andThen fun _ _ => yields_done ⟨byteText_stringOf bytes, ?_⟩
    have hlength : (((bytesOf (stringOf bytes)).length : ℤ) + 1) = len := by
      rw [bytesOf_stringOf, hbytes]
      omega
    rwa [hlength]

theorem yields_getNumber_byte :
    (getNumber 1).Yields fun value => ∃ byte : UInt8, value = byte.toNat := by
  refine (yields_getBytes 1).andThen fun bytes hbytes => yields_done ?_
  obtain ⟨byte, rfl⟩ := List.length_eq_one_iff.mp hbytes
  exact ⟨byte, by rw [LittleEndian.decode, LittleEndian.decode, Nat.mul_zero, Nat.add_zero]⟩

theorem yields_getBsonBinary {len : ℤ} (hlen : LittleEndian.Fits 4 len) :
    (getBsonBinary len).Yields Encodable := by
  rw [getBsonBinary]
  split
  · exact yields_stop _
  · refine yields_getNumber_byte.andThen fun subtype hsubtype =>
      (yields_getBytes _).andThen fun bytes hbytes => yields_done (.scalar _ trivial ?_)
    obtain ⟨byte, rfl⟩ := hsubtype
    have hlength : (bytes.length : ℤ) = len := by
      rw [hbytes]
      omega
    rw [← hlength] at hlen
    exact ⟨hlen, byte, congrArg some (UInt64.ofNat_uInt8ToNat byte)⟩

/-! ## Objects -/

theorem map_fst_assignField (key : String) (value : Json) (fields : List (String × Json)) :
    (assignField key value fields).map Prod.fst =
      if key ∈ fields.map Prod.fst then fields.map Prod.fst
      else fields.map Prod.fst ++ [key] := by
  induction fields with
  | nil => rfl
  | cons head fields ih =>
      obtain ⟨name, old⟩ := head
      rw [assignField]
      by_cases hname : name = key
      · rw [if_pos hname, if_pos (hname ▸ List.mem_cons_self)]
        rfl
      · rw [if_neg hname, List.map_cons, ih]
        simp only [List.map_cons, List.mem_cons, Ne.symm hname, false_or]
        split <;> rfl

theorem mem_assignField {key : String} {value : Json} {fields : List (String × Json)}
    {field : String × Json} (hfield : field ∈ assignField key value fields) :
    field ∈ fields ∨ field = (key, value) := by
  induction fields with
  | nil => exact .inr (List.mem_singleton.mp hfield)
  | cons head fields ih =>
      obtain ⟨name, old⟩ := head
      rw [assignField] at hfield
      split at hfield
      · rename_i hname
        cases List.mem_cons.mp hfield with
        | inl heq => exact .inr (hname ▸ heq)
        | inr htail => exact .inl (List.mem_cons_of_mem _ htail)
      · cases List.mem_cons.mp hfield with
        | inl heq => exact .inl (heq ▸ List.mem_cons_self)
        | inr htail => exact (ih htail).imp_left (List.mem_cons_of_mem _)

def GoodElement (element : String × Json) : Prop :=
  (ByteText element.1 ∧ CleanName element.1) ∧ Encodable element.2

/-- A name that comes again does not make a second field. -/
theorem encodable_assignField {fields : List (String × Json)} {name : String} {value : Json}
    (hfields : Encodable (.object fields)) (hname : ByteText name ∧ CleanName name)
    (hvalue : Encodable value) : Encodable (.object (assignField name value fields)) := by
  obtain ⟨⟨hnodup, hnames⟩, hvalues⟩ := everywhere_object_iff.mp hfields
  refine .object _ ?_ fun field hfield => ?_
  · rw [map_fst_assignField]
    split
    · exact ⟨hnodup, hnames⟩
    · rename_i hnew
      refine ⟨?_, fun other hmem => ?_⟩
      · rw [List.nodup_append]
        exact ⟨hnodup, List.nodup_singleton _, fun other hmem last hlast heq =>
          hnew (List.mem_singleton.mp hlast ▸ heq ▸ hmem)⟩
      · cases List.mem_append.mp hmem with
        | inl hold => exact hnames other hold
        | inr hlast => exact List.mem_singleton.mp hlast ▸ hname
  · cases mem_assignField hfield with
    | inl hold => exact hvalues field hold
    | inr hlast => exact hlast ▸ hvalue

theorem encodable_ofElements {elements : List (String × Json)}
    (helements : ∀ element ∈ elements, GoodElement element) :
    Encodable (.object (ofElements elements)) := by
  suffices hsuffices : ∀ fields : List (String × Json),
      Encodable (.object fields) → Encodable (.object (elements.foldl
        (fun fields element => assignField element.1 element.2 fields) fields)) from
    hsuffices [] (.object [] (by decide) (by simp))
  induction elements with
  | nil => exact fun fields hfields => hfields
  | cons element elements ih =>
      intro fields hfields
      obtain ⟨⟨hname, hvalue⟩, helements⟩ := List.forall_mem_cons.mp helements
      exact ih helements _ (encodable_assignField hfields hname hvalue)

/-- Every list of elements that a reader yields consists of good ones. -/
def GoodElements (elements : List (String × Json)) : Prop :=
  ∀ element ∈ elements, GoodElement element

theorem yields_parseBsonElementInternal {parse : ByteReader (List (String × Json))}
    (hparse : parse.Yields GoodElements) (elementType : UInt8) :
    (parseBsonElementInternal parse elementType).Yields Encodable := by
  have hscalar : ∀ value : Json, value.IsScalar → DocumentScalar value →
      (done value : ByteReader Json).Yields Encodable :=
    fun value hkind hvalue => yields_done (.scalar value hkind hvalue)
  rw [parseBsonElementInternal]
  split
  · exact (yields_true _).andThen fun bits _ => hscalar _ trivial trivial
  · exact (yields_getInt (by decide)).andThen fun len hlen =>
      (yields_getBsonString hlen).andThen fun text htext => hscalar _ trivial htext
  · exact (yields_true _).andThen fun _ _ =>
      hparse.andThen fun elements helements => yields_done (encodable_ofElements helements)
  · refine (yields_true _).andThen fun _ _ =>
      hparse.andThen fun elements helements => yields_done (.array _ ?_)
    rw [List.forall_mem_map]
    exact fun element helement => (helements element helement).2
  · exact (yields_getInt (by decide)).andThen fun len hlen => yields_getBsonBinary hlen
  · exact (yields_true _).andThen fun value _ => hscalar _ trivial trivial
  · exact hscalar _ trivial trivial
  · refine (yields_getInt (by decide)).andThen fun value hvalue => hscalar _ trivial ?_
    unfold LittleEndian.Fits at hvalue
    unfold DocumentScalar LittleEndian.Fits
    omega
  · exact (yields_getInt (by decide)).andThen fun value hvalue => hscalar _ trivial hvalue
  · exact yields_stop _

theorem yields_parseRounds (rounds : ℕ) : (parseRounds rounds).Yields GoodElements := by
  induction rounds with
  | zero =>
      intro input value rest hread
      cases hread
  | succ rounds ih =>
      intro input value rest hread
      cases input with
      | nil => cases hread
      | cons elementType input =>
          rw [parseRounds] at hread
          split at hread
          · cases hread
            simp [GoodElements]
          · refine yields_getBsonCstr.andThen (fun key hkey =>
              (yields_parseBsonElementInternal ih elementType).andThen fun value hvalue =>
                ih.andThen fun elements helements =>
                  yields_done (List.forall_mem_cons.mpr ⟨⟨⟨byteText_stringOf key, ?_⟩, hvalue⟩,
                    helements⟩)) hread
            rwa [CleanName, bytesOf_stringOf]

/-- A document that is accepted, whatever its bytes, is an object that can be encoded. -/
theorem encodable_of_fromBson {bytes : List UInt8} {document : Json}
    (hread : fromBson bytes = .ok document) :
    ∃ fields, document = .object fields ∧ Encodable (.object fields) := by
  have hyields : (parseBsonInternal parseBsonElementList).Yields fun value =>
      ∃ fields, value = .object fields ∧ Encodable (.object fields) :=
    (yields_true _).andThen fun _ _ =>
      Yields.andThen (fun input _ _ hread => yields_parseRounds input.length hread)
        fun elements helements => yields_done ⟨_, rfl, encodable_ofElements helements⟩
  exact hyields (fromBson_eq_ok.mp hread)

/-- The order is the same when the fields are put in order again. -/
theorem toBson_orderedFields (fields : List (String × Json)) :
    toBson (orderedFields fields) = toBson fields := by
  have hagain := ordered_ordered (.object fields)
  rw [ordered, ordered] at hagain
  rw [toBson, toBson, Json.object.inj hagain]

/-- A node can pass on what it received, whoever wrote it: an accepted document is
written again, what is written is accepted as the same document with its objects in
order, and the next node writes the same bytes. -/
theorem toBson_of_fromBson (bytes : List UInt8) (document : Json)
    (hread : fromBson bytes = .ok document) :
    ∃ fields written, document = .object fields ∧ toBson fields = .ok written ∧
      fromBson written = .ok (.object (orderedFields fields)) ∧
      toBson (orderedFields fields) = .ok written := by
  obtain ⟨fields, rfl, hencodable⟩ := encodable_of_fromBson hread
  obtain ⟨written, hwritten, hagain⟩ := fromBson_toBson fields hencodable
  exact ⟨fields, written, rfl, hwritten, hagain, (toBson_orderedFields fields).trans hwritten⟩

/-- A document with a binary of subtype 128 is passed on with its subtype. -/
theorem toBson_of_fromBson_binary :
    ∃ fields written, Json.object [("a", .binary [7] (some 128))] = .object fields ∧
      toBson fields = .ok written ∧
      fromBson written = .ok (.object (orderedFields fields)) ∧
      toBson (orderedFields fields) = .ok written :=
  toBson_of_fromBson [0x0E, 0, 0, 0, 0x05, 0x61, 0, 1, 0, 0, 0, 0x80, 7, 0] _ rfl

theorem fromBson_append {bytes more : List UInt8} {document : Json}
    (hread : fromBson bytes = .ok document) (hmore : more ≠ []) :
    fromBson (bytes ++ more) = .error (.parseError 110) := by
  have hsteady := steady_parseBsonInternal steady_parseBsonElementList
  have hwhole := (hsteady (fromBson_eq_ok.mp hread)).2 more
  rw [fromBson, hwhole, Fallible.ok_bind]
  exact if_neg hmore

/-- No document is a proper front part of another one: with anything behind it a document
is refused, and so is every part of it that is cut off behind. -/
theorem fromBson_isolated (bytes : List UInt8) (document : Json)
    (hread : fromBson bytes = .ok document) :
    (∀ more, more ≠ [] → fromBson (bytes ++ more) = .error (.parseError 110)) ∧
      ∀ length < bytes.length, ∀ other, fromBson (bytes.take length) ≠ .ok other := by
  refine ⟨fun more hmore => fromBson_append hread hmore, fun length hlength other hother => ?_⟩
  have hrest : bytes.drop length ≠ [] := by
    rw [ne_eq, List.drop_eq_nil_iff]
    omega
  have hwhole := fromBson_append hother hrest
  rw [List.take_append_drop, hread] at hwhole
  cases hwhole

/-- The document `{"a": true}` without its last byte, or with another one. -/
theorem fromBson_isolated_flag :
    (∀ more, more ≠ [] → fromBson ([0x09, 0, 0, 0, 0x08, 0x61, 0, 1, 0] ++ more) =
        .error (.parseError 110)) ∧
      ∀ length < 9, ∀ other,
        fromBson (([0x09, 0, 0, 0, 0x08, 0x61, 0, 1, 0] : List UInt8).take length) ≠
          .ok other :=
  fromBson_isolated [0x09, 0, 0, 0, 0x08, 0x61, 0, 1, 0] (.object [("a", .boolean true)]) rfl

end SsP2p.Bson

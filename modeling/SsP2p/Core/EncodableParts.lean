import Mathlib.Data.Nat.Digits.Defs
import SsP2p.Core.MessageCodec

/-!
# The parts that nodes send

The values from which the node builds its messages are encodable, as long as the texts of
addresses and ids are as short as those of Boost.
-/

namespace SsP2p

def ShortText (text : String) : Prop :=
  Bson.ByteText text ∧ (bytesOf text).length ≤ 255

/-- What Boost promises for the texts of addresses and ids. -/
structure Platform.ShortTexts (platform : Platform) : Prop where
  address : ∀ address, ShortText (platform.addressToString address)
  uuid : ∀ id, ShortText (platform.uuidToString id)

namespace Bson

open Json

/-- The name of a field that is assigned. -/
def GoodName (name : String) : Prop := ByteText name ∧ CleanName name

instance (name : String) : Decidable (GoodName name) :=
  inferInstanceAs (Decidable (_ ∧ _))

theorem encodable_string {text : String} (htext : ByteText text)
    (hlength : (bytesOf text).length < 2 ^ 16) : Encodable (.string text) := by
  refine .scalar _ trivial ⟨htext, ?_⟩
  unfold LittleEndian.Fits
  omega

theorem ShortText.encodable {text : String} (hshort : ShortText text) :
    Encodable (.string text) :=
  encodable_string hshort.1 (Nat.lt_of_le_of_lt hshort.2 (by decide))

theorem encodable_integer {value : ℤ} (hfits : LittleEndian.Fits 8 value) :
    Encodable (.integer value) :=
  .scalar _ trivial hfits

end Bson

/-! ## Texts -/

theorem bytesOf_append (first second : String) :
    bytesOf (first ++ second) = bytesOf first ++ bytesOf second := by
  rw [bytesOf, String.toList_append, List.map_append, bytesOf, bytesOf]

theorem length_bytesOf (text : String) : (bytesOf text).length = text.length := by
  rw [bytesOf, List.length_map, String.length_toList]

theorem byteText_append {first second : String} (hfirst : Bson.ByteText first)
    (hsecond : Bson.ByteText second) : Bson.ByteText (first ++ second) := by
  intro c hc
  rw [String.toList_append] at hc
  exact (List.mem_append.mp hc).elim (hfirst c) (hsecond c)

theorem length_repr_port (port : UInt16) : port.toNat.repr.length ≤ 5 := by
  refine Nat.repr_length port.toNat 5 (by decide) ?_
  exact port.toNat_lt.trans (by decide)

theorem encodable_endpointToStr {platform : Platform} (hshort : platform.ShortTexts)
    (ep : Endpoint) : Bson.Encodable (.string (endpointToStr platform ep)) := by
  obtain ⟨htext, hlength⟩ := hshort.address ep.address
  have hport := length_repr_port ep.port
  refine Bson.encodable_string ?_ ?_
  · exact byteText_append (byteText_append htext (by decide)) (Bson.byteText_repr _)
  · have hcolon : (bytesOf ":").length = 1 := rfl
    rw [endpointToStr, bytesOf_append, bytesOf_append, List.length_append,
      List.length_append, hcolon, length_bytesOf ep.port.toNat.repr]
    omega

/-- The list of the texts of some endpoints. -/
theorem encodable_endpointTexts {platform : Platform} (hshort : platform.ShortTexts)
    (eps : List Endpoint) :
    Bson.Encodable (.array (eps.map fun ep => .string (endpointToStr platform ep))) := by
  refine .array _ ?_
  rw [List.forall_mem_map]
  exact fun ep _ => encodable_endpointToStr hshort ep

theorem encodable_port (port : UInt16) : Bson.Encodable (.integer port.toNat) := by
  have hlt := port.toNat_lt
  refine Bson.encodable_integer ?_
  unfold LittleEndian.Fits
  omega

/-! ## Messages -/

theorem encodable_appId : Bson.Encodable Message.appId := by
  refine .array _ ?_
  rw [List.forall_mem_map]
  intro c _
  have hlt : c.toNat < 2 ^ 32 := c.val.toNat_lt
  refine Bson.encodable_integer ?_
  unfold LittleEndian.Fits
  omega

theorem Message.encodable_ofPart {param : String} {payload : Json}
    (hparam : Bson.GoodName param) (hpayload : Bson.Encodable payload) :
    (Message.ofPart param payload).Encodable := by
  have hstart : Bson.Encodable (.object [("app_id", Message.appId)]) :=
    .object _ (by decide) (List.forall_mem_singleton.mpr encodable_appId)
  exact Bson.encodable_assignField hstart hparam hpayload

/-! ## The host platform -/

theorem length_toDigits_octet {octet : ℕ} (hoctet : octet < 2 ^ 8) :
    (Nat.toDigits 10 octet).length ≤ 3 := by
  rw [← Nat.toList_repr, String.length_toList]
  exact Nat.repr_length octet 3 (by decide) (hoctet.trans (by decide))

theorem shortText_ipv4Text (bits : BitVec 32) : ShortText (ipv4Text bits) := by
  have hbits := bits.isLt
  constructor
  · intro c hc
    simp only [ipv4Text, octets, String.toList_ofList, List.map_cons, List.map_nil,
      List.intercalate_cons_cons, List.intercalate_singleton, List.mem_append,
      List.mem_singleton, or_assoc] at hc
    have hdigit : ∀ n, c ∈ Nat.toDigits 10 n → c.toNat < 256 := by
      intro n hmem
      have hisDigit := Nat.isDigit_of_mem_toDigits (by decide) (by decide) hmem
      rw [Char.isDigit_iff_toNat] at hisDigit
      have hlast : '9'.toNat = 57 := rfl
      omega
    have hdot : c = '.' → c.toNat < 256 := by
      rintro rfl
      decide
    rcases hc with hc | hc | hc | hc | hc | hc | hc
    all_goals first | exact hdigit _ hc | exact hdot hc
  · have hfirst : (Nat.toDigits 10 (bits.toNat / 2 ^ 24)).length ≤ 3 :=
      length_toDigits_octet (by omega)
    have hsecond : (Nat.toDigits 10 (bits.toNat / 2 ^ 16 % 2 ^ 8)).length ≤ 3 :=
      length_toDigits_octet (by omega)
    have hthird : (Nat.toDigits 10 (bits.toNat / 2 ^ 8 % 2 ^ 8)).length ≤ 3 :=
      length_toDigits_octet (by omega)
    have hfourth : (Nat.toDigits 10 (bits.toNat % 2 ^ 8)).length ≤ 3 :=
      length_toDigits_octet (by omega)
    simp only [bytesOf, List.length_map, ipv4Text, octets, String.toList_ofList,
      List.map_cons, List.map_nil, List.intercalate_cons_cons, List.intercalate_singleton,
      List.length_append, List.length_singleton]
    omega

theorem length_hexDigits (count n : ℕ) : (hexDigits count n).length = count := by
  induction count generalizing n with
  | zero => rfl
  | succ count ih => rw [hexDigits, List.length_append, ih, List.length_singleton]

theorem toNat_lt_of_mem_hexDigits {c : Char} {count n : ℕ} (hc : c ∈ hexDigits count n) :
    c.toNat < 256 := by
  by_contra hlarge
  refine notMem_hexDigits (c := c) ?_ count n hc
  intro digit hdigit
  have hsmall : ∀ d : Fin 16, (Nat.digitChar d).toNat < 256 := by decide
  exact hlarge (hdigit ▸ hsmall digit)

theorem shortText_uuidText (id : Uuid) : ShortText (uuidText id) := by
  constructor
  · intro c hc
    simp only [uuidText, String.toList_ofList, List.intercalate_cons_cons,
      List.intercalate_singleton, List.mem_append, List.mem_singleton, or_assoc] at hc
    have hdash : c = '-' → c.toNat < 256 := by
      rintro rfl
      decide
    rcases hc with hc | hc | hc | hc | hc | hc | hc | hc | hc
    all_goals first | exact toNat_lt_of_mem_hexDigits hc | exact hdash hc
  · simp only [bytesOf, List.length_map, uuidText, String.toList_ofList,
      List.intercalate_cons_cons, List.intercalate_singleton, List.length_append,
      List.length_singleton, length_hexDigits]
    decide

theorem shortTexts_bsonPlatform : bsonPlatform.ShortTexts where
  address address := by
    cases address with
    | v4 bits => exact shortText_ipv4Text bits
    | v6 bits scopeId =>
        have hempty : ShortText "" := ⟨by decide, by decide⟩
        exact hempty
  uuid := shortText_uuidText

end SsP2p

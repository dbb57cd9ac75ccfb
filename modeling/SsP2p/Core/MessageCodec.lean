import SsP2p.Core.BsonAccepted
import SsP2p.Core.EndpointText
import SsP2p.Core.Message

/-!
# Messages on the wire

`message::encode` and `message::decode` with the BSON of the JSON library.  A message
whose parts are encodable is decoded by any node as it was sent, up to the order of
its fields, which nobody sees who reads it by its keys.
-/

namespace SsP2p

namespace Bson

/-- What `message::decode` gets from the reader, `none` where it raises.  A discarded value
contains no parameter, and neither does an empty object. -/
def documentOf (bytes : List UInt8) : Option (List (String × Json)) :=
  match fromBson bytes with
  | .ok (.object fields) => some fields
  | .ok _ => none
  | .error .discarded => some []
  | .error (.parseError _) => none

end Bson

/-- The `from_bson` of the platform is the one of the JSON library. -/
def Platform.ReadsBson (platform : Platform) : Prop :=
  ∀ bytes, platform.fromBson bytes = Bson.documentOf bytes

/-- The host platform with the reader of the JSON library. -/
def bsonPlatform : Platform :=
  { hostPlatform [] with fromBson := Bson.documentOf }

theorem readsBson_bsonPlatform : bsonPlatform.ReadsBson := fun _ => rfl

theorem bsonPlatform_uuidFromString (text : String) :
    bsonPlatform.uuidFromString text = (hostPlatform []).uuidFromString text := by
  rw [bsonPlatform]

theorem bsonPlatform_uuidToString (id : Uuid) :
    bsonPlatform.uuidToString id = (hostPlatform []).uuidToString id := by
  rw [bsonPlatform]

theorem readsBack_bsonPlatform : bsonPlatform.ReadsBack where
  address := by
    rw [bsonPlatform]
    exact (readsBack_hostPlatform []).address
  noColon := by
    rw [bsonPlatform]
    exact (readsBack_hostPlatform []).noColon
  uuid id := by
    rw [bsonPlatform_uuidToString, bsonPlatform_uuidFromString]
    exact (readsBack_hostPlatform []).uuid id

namespace Message

def encode (msg : Message) : Except Bson.OutOfRange (List UInt8) := Bson.toBson msg.fields

/-- The message as it arrives: with its objects in order. -/
def ordered (msg : Message) : Message := ⟨Json.orderedFields msg.fields⟩

/-- A message that survives the wire. -/
def Encodable (msg : Message) : Prop := Bson.Encodable (.object msg.fields)

variable {platform : Platform} {msg : Message}

/-- Reading a part does not see the order. -/
theorem getParam_ordered (msg : Message) (param : String) :
    msg.ordered.getParam param = (msg.getParam param).map Json.ordered :=
  Json.lookupField_orderedFields param msg.fields

/-- A message is decoded as it was encoded. -/
theorem decode_encode (hreads : platform.ReadsBson) (hencodable : msg.Encodable) :
    ∃ raw, msg.encode = .ok raw ∧ decode platform raw = .ok msg.ordered := by
  obtain ⟨raw, hraw, hread⟩ := Bson.fromBson_toBson msg.fields hencodable
  refine ⟨raw, hraw, ?_⟩
  rw [decode, hreads, Bson.documentOf, hread]
  rfl

/-- Whatever is decoded can be encoded again. -/
theorem encodable_of_decode (hreads : platform.ReadsBson) {raw : List UInt8}
    (hdecode : decode platform raw = .ok msg) : msg.Encodable := by
  rw [decode, hreads, Bson.documentOf] at hdecode
  cases hread : Bson.fromBson raw with
  | ok document =>
      obtain ⟨fields, rfl, hencodable⟩ := Bson.encodable_of_fromBson hread
      rw [hread] at hdecode
      cases hdecode
      exact hencodable
  | error stop =>
      rw [hread] at hdecode
      cases stop with
      | parseError id => cases hdecode
      | discarded =>
          cases hdecode
          exact .object [] (by decide) (by simp)

end Message

end SsP2p

import SsP2p.Core.Utils

/-!
# Messages

`message` is a JSON object with one part for each layer.  What a node sends is a
message that holds the application id and one part.
-/

namespace SsP2p

/-- `message`; its body is always an object. -/
structure Message where
  fields : List (String × Json)

namespace Message

/-- `node_controller::_id`. -/
def appId : Json :=
  .array ("abcdefgh".toList.map fun c => .integer c.toNat)

def setParam (msg : Message) (key : String) (value : Json) : Message :=
  ⟨assignField key value msg.fields⟩

def getParam (msg : Message) (param : String) : Option Json :=
  lookupField param msg.fields

def isContainParam (msg : Message) (param : String) : Bool :=
  (msg.getParam param).isSome

/-- The constructor that sets the application id, then one part. -/
def ofPart (param : String) (payload : Json) : Message :=
  setParam ⟨[("app_id", appId)]⟩ param payload

@[simp]
theorem getParam_setParam_self (msg : Message) (key : String) (value : Json) :
    (msg.setParam key value).getParam key = some value :=
  lookupField_assignField_self key value msg.fields

@[simp]
theorem getParam_ofPart (param : String) (payload : Json) :
    (ofPart param payload).getParam param = some payload :=
  getParam_setParam_self _ param payload

def decode (platform : Platform) (raw : List UInt8) : Except Fault Message :=
  match platform.fromBson raw with
  | some fields => .ok ⟨fields⟩
  | none => .error .parseError

end Message

end SsP2p

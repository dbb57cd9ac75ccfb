import SsP2p.Core.Message
import SsP2p.Lib.Fallible

/-!
# ICE messages

`ice_message`, the part of a message under `ice_agent`, with its signaling and
STUN controllers.  The constructor reads the protocol through the subscript, so
that the body is an object from then on and a subscript no longer raises.
-/

namespace SsP2p.Ice

inductive Protocol where
  | signaling
  | stun
  | none
  deriving DecidableEq

inductive SignalingSubProtocol where
  | request
  | response
  | relay
  deriving DecidableEq

inductive StunSubProtocol where
  | bindingRequest
  | bindingResponse
  deriving DecidableEq

def SignalingSubProtocol.code : SignalingSubProtocol → ℕ
  | request => 0
  | response => 1
  | relay => 2

def StunSubProtocol.code : StunSubProtocol → ℕ
  | bindingRequest => 0
  | bindingResponse => 1

/-- `ice_message`; its body is always an object. -/
structure IceMessage where
  fields : List (String × Json)

namespace IceMessage

def ofJson : Json → Except Fault IceMessage
  | .object fields => .ok ⟨fields⟩
  | .null => .ok ⟨[("protocol", .null)]⟩
  | _ => .error (.typeError 305)

def encode (iceMsg : IceMessage) : Json := .object iceMsg.fields

def get (iceMsg : IceMessage) (key : String) : Json :=
  (lookupField key iceMsg.fields).getD .null

def set (iceMsg : IceMessage) (key : String) (value : Json) : IceMessage :=
  ⟨assignField key value iceMsg.fields⟩

def getProtocol (iceMsg : IceMessage) : Protocol :=
  if (iceMsg.get "protocol").isLiteral "signaling" then .signaling
  else if (iceMsg.get "protocol").isLiteral "stun" then .stun
  else .none

def make (p : Protocol) : IceMessage :=
  let text := match p with
    | .signaling => "signaling"
    | .stun => "stun"
    | .none => "none"
  ⟨[("protocol", .string text), ("relay_eps", .array []), ("ttl", .integer 5)]⟩

section Fields

variable (platform : Platform) (iceMsg : IceMessage)

def setObserverId (id : Uuid) : IceMessage :=
  iceMsg.set "observer_id" (.string (platform.uuidToString id))

def getObserverId : Except Fault Uuid := do
  strToObserverId platform (← (iceMsg.get "observer_id").getString)

/-- An address under one key and a port under another. -/
def setEndpoint (ipKey portKey : String) (ep : Endpoint) : IceMessage :=
  (iceMsg.set ipKey (.string (platform.addressToString ep.address))).set portKey
    (.integer ep.port.toNat)

/-- The endpoint whose address and port are under these keys. -/
def getEndpoint (ipKey portKey : String) : Except Fault Endpoint := do
  let ip ← (iceMsg.get ipKey).getString
  let port ← (iceMsg.get portKey).getUShort platform.truncate
  addrPairToEndpoint platform ip port

/-! ## `stun_message_controller` -/

def setStunSubProtocol (p : StunSubProtocol) : IceMessage :=
  iceMsg.set "sub_protocol" (.integer p.code)

/-- The number that `get_sub_protocol` casts to the enumeration. -/
def getSubProtocol : Except Fault ℕ :=
  (iceMsg.get "sub_protocol").getEnum platform.truncate

def getGlobalEp : Except Fault Endpoint :=
  iceMsg.getEndpoint platform "global_ip" "global_port"

def setGlobalEp (ep : Endpoint) : IceMessage :=
  iceMsg.setEndpoint platform "global_ip" "global_port" ep

/-! ## `signaling_message_controller` -/

def setSignalingSubProtocol (p : SignalingSubProtocol) : IceMessage :=
  iceMsg.set "sub_protocol" (.integer p.code)

def setDestEndpoint (ep : Endpoint) : IceMessage :=
  iceMsg.setEndpoint platform "dest_ip" "dest_port" ep

def setSrcEndpoint (ep : Endpoint) : IceMessage :=
  iceMsg.setEndpoint platform "src_ip" "src_port" ep

def getDestEndpoint : Except Fault Endpoint :=
  iceMsg.getEndpoint platform "dest_ip" "dest_port"

def getSrcEndpoint : Except Fault Endpoint :=
  iceMsg.getEndpoint platform "src_ip" "src_port"

def addRelayEndpoint (ep : Endpoint) : Except Fault IceMessage := do
  let relayEps ← (iceMsg.get "relay_eps").pushBack
    (.string (endpointToStr platform ep))
  return iceMsg.set "relay_eps" relayEps

/-- The entries of an array that `get_relay_endpoints` reads one by one. -/
def getRelayEndpoints : Except Fault (List Endpoint) :=
  match iceMsg.get "relay_eps" with
  | .array items => items.mapM fun item => do
      strToEndpoint platform (← item.getString)
  | .null => .ok []
  | .object [] => .ok []
  | _ => .error (.typeError 305)

def getTtl : Except Fault ℤ :=
  (iceMsg.get "ttl").getInt platform.truncate

end Fields

/-! ## What an assignment does to the other fields -/

@[simp]
theorem get_set_self (iceMsg : IceMessage) (key : String) (value : Json) :
    (iceMsg.set key value).get key = value := by
  rw [get, set, lookupField_assignField_self]
  rfl

theorem get_set_of_ne {key other : String} (hne : other ≠ key)
    (iceMsg : IceMessage) (value : Json) :
    (iceMsg.set key value).get other = iceMsg.get other := by
  rw [get, get, set, lookupField_assignField_of_ne hne]

/-- The sub protocol that was set is the one that is read. -/
theorem getSubProtocol_setSignalingSubProtocol (platform : Platform)
    (iceMsg : IceMessage) (p : SignalingSubProtocol) :
    (iceMsg.setSignalingSubProtocol p).getSubProtocol platform = .ok p.code := by
  rw [getSubProtocol, setSignalingSubProtocol, get_set_self]
  cases p <;> rfl

theorem get_setSignalingSubProtocol {key : String} (hkey : key ≠ "sub_protocol")
    (iceMsg : IceMessage) (p : SignalingSubProtocol) :
    (iceMsg.setSignalingSubProtocol p).get key = iceMsg.get key :=
  get_set_of_ne hkey iceMsg _

/-- `push_back` works on an array and on `null`. -/
theorem pushBack_eq_ok_iff {body value result : Json} :
    body.pushBack value = .ok result ↔
      ∃ items, (body = .array items ∨ body = .null ∧ items = []) ∧
        result = .array (items ++ [value]) := by
  constructor
  · intro hpush
    cases body with
    | array items => exact ⟨items, Or.inl rfl, (Except.ok.inj hpush).symm⟩
    | null => exact ⟨[], Or.inr ⟨rfl, rfl⟩, (Except.ok.inj hpush).symm⟩
    | _ => cases hpush
  · rintro ⟨items, rfl | ⟨rfl, rfl⟩, rfl⟩
    · rfl
    · rfl

/-- An added relay endpoint stands at the end of the list. -/
theorem addRelayEndpoint_eq_ok_iff {platform : Platform} {iceMsg added : IceMessage}
    {ep : Endpoint} :
    iceMsg.addRelayEndpoint platform ep = .ok added ↔
      ∃ items, (iceMsg.get "relay_eps" = .array items ∨
          iceMsg.get "relay_eps" = .null ∧ items = []) ∧
        added = iceMsg.set "relay_eps"
          (.array (items ++ [.string (endpointToStr platform ep)])) := by
  simp only [addRelayEndpoint, Fallible.bind_eq_ok, Fallible.pure_eq_ok,
    pushBack_eq_ok_iff]
  constructor
  · rintro ⟨_, ⟨items, hitems, rfl⟩, rfl⟩
    exact ⟨items, hitems, rfl⟩
  · rintro ⟨items, hitems, rfl⟩
    exact ⟨_, ⟨items, hitems, rfl⟩, rfl⟩

end IceMessage

end SsP2p.Ice

import SsP2p.Core.Message

/-!
# Kademlia messages

`k_message`, the part of a message under `kademlia`.  `get_rpc` and
`get_message_type` read the body through the `const` subscript, everything else
through the one that adds what is missing.
-/

namespace SsP2p.Kademlia

structure KMessage where
  body : Json

namespace KMessage

inductive Rpc where
  | ping
  | findNode
  | none
  deriving DecidableEq

inductive MessageType where
  | request
  | response
  deriving DecidableEq

variable (platform : Platform)

def setRpc (kMsg : KMessage) (r : Rpc) : Except Fault KMessage :=
  let text := match r with
    | .ping => "ping"
    | .findNode => "find_node"
    | .none => "none"
  return ⟨← kMsg.body.assign "rpc" (.string text)⟩

/-- `_request_`: the constructor for `"request"`, then `set_rpc`. -/
def request (r : Rpc) : Except Fault KMessage :=
  setRpc ⟨.object [("type", .string "request"), ("rpc", .object [])]⟩ r

/-- Whatever is not `"ping"` counts as `find_node`. -/
def getRpc (kMsg : KMessage) : Except Fault Rpc :=
  return if (← kMsg.body.constSubscript "rpc").isLiteral "ping" then .ping
    else .findNode

/-- Whatever is not `"request"` counts as a response. -/
def getMessageType (kMsg : KMessage) : Except Fault MessageType :=
  return if (← kMsg.body.constSubscript "type").isLiteral "request" then .request
    else .response

/-- The `switch` has no `break`: a request is overwritten by a response. -/
def setMessageType (kMsg : KMessage) (t : MessageType) : Except Fault KMessage := do
  let body ← match t with
    | .request => kMsg.body.assign "type" (.string "request")
    | .response => pure kMsg.body
  return ⟨← body.assign "type" (.string "response")⟩

/-- Nothing in the node calls it. -/
def validate (kMsg : KMessage) : Bool :=
  kMsg.body.contains "type" && kMsg.body.contains "rpc"

def getObserverId (kMsg : KMessage) : Except Fault Uuid := do
  strToObserverId platform (← (← kMsg.body.subscript "observer_id").getString)

def setObserverId (kMsg : KMessage) (id : Uuid) : Except Fault KMessage :=
  return ⟨← kMsg.body.assign "observer_id" (.string (platform.uuidToString id))⟩

def getEndpoints (kMsg : KMessage) (key : String) :
    Except Fault (List Endpoint) := do
  (← (← kMsg.body.subscript key).getStrings).mapM (strToEndpoint platform)

def setEndpoints (kMsg : KMessage) (key : String) (eps : List Endpoint) :
    Except Fault KMessage :=
  return ⟨← kMsg.body.assign key
    (.array (eps.map fun ep => .string (endpointToStr platform ep)))⟩

def getIgnoreEndpoint (kMsg : KMessage) : Except Fault (List Endpoint) :=
  kMsg.getEndpoints platform "ignore_eps"

def setIgnoreEndpoint (kMsg : KMessage) (eps : List Endpoint) :
    Except Fault KMessage :=
  kMsg.setEndpoints platform "ignore_eps" eps

def getFindedEndpoint (kMsg : KMessage) : Except Fault (List Endpoint) :=
  kMsg.getEndpoints platform "finded_eps"

def setFindedEndpoint (kMsg : KMessage) (eps : List Endpoint) :
    Except Fault KMessage :=
  kMsg.setEndpoints platform "finded_eps" eps

end KMessage

end SsP2p.Kademlia

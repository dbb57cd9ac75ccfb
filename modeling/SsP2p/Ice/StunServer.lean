import SsP2p.Ice.SignalingServer

/-!
# The STUN server

`stun_server` answers a binding request with the endpoint that it came from, and
asks other nodes under which endpoint they see this one.
-/

namespace SsP2p.Ice

open Kademlia

namespace StunServer

variable (platform : Platform)

def responseMessage (iceMsg : IceMessage) (ep : Endpoint) : IceMessage :=
  (iceMsg.setStunSubProtocol .bindingResponse).setGlobalEp platform ep

/-- `income_message`: everything but a request is dropped. -/
def incomeMessage (io : IoContext) (iceMsg : IceMessage) (ep : Endpoint) :
    Except Fault IoContext := do
  let subProtocol ← iceMsg.getSubProtocol platform
  if subProtocol = StunSubProtocol.bindingRequest.code then
    return SignalingServer.sendAll io (responseMessage platform iceMsg ep) [ep]
  else return io

/-- The nodes that `binding_request` asks: the given ones, filled up from the
table to a tenth of the reliability, at least one. -/
def requestNodes (table : KRoutingTable) (targetNodes : List Endpoint)
    (reliability : ℕ) : List Endpoint :=
  let count := max (max 1 targetNodes.length) (reliability / 10)
  if count > targetNodes.length then
    targetNodes ++ table.collectEndpoint platform .unspecified
      (count - targetNodes.length) targetNodes
  else targetNodes

/-- `binding_request` with the id that its observer draws. -/
def bindingRequest (strage : IceObserverStrage) (io : IoContext)
    (table : KRoutingTable) (id : Uuid) (targetNodes : List Endpoint)
    (reliability : ℕ) : IceObserverStrage × IoContext :=
  let requestNodes := requestNodes platform table targetNodes reliability
  if requestNodes.isEmpty then (strage, io)
  else
    let obs := BindingRequest.make id io.now
    let iceMsg := ((IceMessage.make .stun).setObserverId platform id).setStunSubProtocol
      .bindingRequest
    ({ strage with
        bindings := strage.bindings.insert
          (requestNodes.foldl (fun obs ep => obs.addRequestedEp ep) obs) },
      SignalingServer.sendAll (obs.init io) iceMsg requestNodes)

end StunServer

end SsP2p.Ice

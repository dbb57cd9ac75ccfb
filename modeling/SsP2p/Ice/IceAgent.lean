import SsP2p.Ice.StunServer

/-!
# The ICE agent

`ice_agent` gives an incoming message to the observer whose id it carries, and
to the signaling or STUN server when there is none.
-/

namespace SsP2p.Ice

open Kademlia

/-- `ice_agent`; `selfEp` is what `get_self_endpoint` returns. -/
structure IceAgent where
  selfEp : Endpoint
  obsStrage : IceObserverStrage

inductive SignalingReceiver where
  | relay (obs : SignalingMark)
  | request (obs : SignalingRequest)
  | response (obs : SignalingMark)
  | server

namespace IceObserverStrage

def signalingReceiver (strage : IceObserverStrage) (obsId : Uuid) :
    SignalingReceiver :=
  match strage.relays.find obsId with
  | some obs => .relay obs
  | none =>
      match strage.requests.find obsId with
      | some obs => .request obs
      | none =>
          match strage.responses.find obsId with
          | some obs => .response obs
          | none => .server

theorem signalingReceiver_eq_server_iff {strage : IceObserverStrage} {obsId : Uuid} :
    strage.signalingReceiver obsId = .server ↔
      strage.relays.find obsId = none ∧ strage.requests.find obsId = none ∧
        strage.responses.find obsId = none := by
  rw [signalingReceiver]
  cases strage.relays.find obsId with
  | some obs => simp
  | none =>
      cases strage.requests.find obsId with
      | some obs => simp
      | none => cases strage.responses.find obsId <;> simp

end IceObserverStrage

namespace IceAgent

variable (platform : Platform)

def updateGlobalSelfEndpoint (agent : IceAgent) (ep : Endpoint) : IceAgent :=
  { agent with selfEp := ep }

def incomeSignaling (agent : IceAgent) (table : KRoutingTable) (io : IoContext)
    (id : Uuid) (iceMsg : IceMessage) :
    Except Fault (IceObserverStrage × IoContext) := do
  let obsId ← iceMsg.getObserverId platform
  match agent.obsStrage.signalingReceiver obsId with
  | .relay obs => return (agent.obsStrage.extendRelay io.now obs.id, io)
  | .request obs => do
      let io ← obs.incomeMessage platform agent.selfEp io iceMsg
      return (agent.obsStrage, io)
  | .response obs => return (agent.obsStrage.extendResponse io.now obs.id, io)
  | .server =>
      SignalingServer.incomeMessage platform agent.selfEp table agent.obsStrage io id
        iceMsg

def incomeStun (agent : IceAgent) (io : IoContext) (iceMsg : IceMessage)
    (ep : Endpoint) : Except Fault (IceObserverStrage × IoContext) := do
  let obsId ← iceMsg.getObserverId platform
  match agent.obsStrage.bindings.find obsId with
  | some obs => do
      let globalEp ← iceMsg.getGlobalEp platform
      return (agent.obsStrage.answerBinding platform ep globalEp obs.id,
        obs.answer platform ep globalEp io)
  | none => do
      let io ← StunServer.incomeMessage platform io iceMsg ep
      return (agent.obsStrage, io)

/-- `income_message`; `id` is what a new observer draws.  It returns 0 whenever it
returns. -/
def incomeMessage (agent : IceAgent) (table : KRoutingTable) (io : IoContext)
    (id : Uuid) (msg : Message) (ep : Endpoint) :
    Except Fault (IceAgent × IoContext) :=
  match msg.getParam "ice_agent" with
  | none => return (agent, io)
  | some iceParam => do
      let iceMsg ← IceMessage.ofJson iceParam
      match iceMsg.getProtocol with
      | .signaling => do
          let (strage, io) ← agent.incomeSignaling platform table io id iceMsg
          return ({ agent with obsStrage := strage }, io)
      | .stun => do
          let (strage, io) ← agent.incomeStun platform io iceMsg ep
          return ({ agent with obsStrage := strage }, io)
      | .none => return (agent, io)

/-- The signaling message that reaches the signaling server: no observer has its
id. -/
def serverMessage (agent : IceAgent) (msg : Message) : Option IceMessage := do
  let iceParam ← msg.getParam "ice_agent"
  let iceMsg ← (IceMessage.ofJson iceParam).toOption
  let obsId ← (iceMsg.getObserverId platform).toOption
  match iceMsg.getProtocol, agent.obsStrage.signalingReceiver obsId with
  | .signaling, .server => some iceMsg
  | _, _ => none

variable {platform}

/-- A message that reaches the signaling server is handled by it. -/
theorem incomeMessage_of_serverMessage {agent : IceAgent} {msg : Message}
    {iceMsg : IceMessage} (hserver : agent.serverMessage platform msg = some iceMsg)
    (table : KRoutingTable) (io : IoContext) (id : Uuid) (ep : Endpoint) :
    agent.incomeMessage platform table io id msg ep =
      (SignalingServer.incomeMessage platform agent.selfEp table agent.obsStrage io id
        iceMsg).map fun result => ({ agent with obsStrage := result.1 }, result.2) := by
  simp only [serverMessage, Option.bind_eq_bind, Option.bind_eq_some_iff,
    Fallible.toOption_eq_some_iff] at hserver
  obtain ⟨iceParam, hparam, other, hofJson, obsId, hobsId, hserver⟩ := hserver
  cases hprotocol : other.getProtocol with
  | signaling =>
      cases hreceiver : agent.obsStrage.signalingReceiver obsId with
      | server =>
          rw [hprotocol, hreceiver] at hserver
          obtain rfl := Option.some.inj hserver
          have hsignaling : agent.incomeSignaling platform table io id other =
              SignalingServer.incomeMessage platform agent.selfEp table
                agent.obsStrage io id other := by
            rw [incomeSignaling, hobsId]
            simp only [Fallible.ok_bind, hreceiver]
          simp only [incomeMessage, hparam, hofJson, Fallible.ok_bind, hprotocol,
            hsignaling]
          cases SignalingServer.incomeMessage platform agent.selfEp table
            agent.obsStrage io id other <;> rfl
      | relay obs => simp [hprotocol, hreceiver] at hserver
      | request obs => simp [hprotocol, hreceiver] at hserver
      | response obs => simp [hprotocol, hreceiver] at hserver
  | stun => simp [hprotocol] at hserver
  | none => simp [hprotocol] at hserver

end IceAgent

end SsP2p.Ice

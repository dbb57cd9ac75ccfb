import SsP2p.Ice.IceAgent
import SsP2p.Lib.Runs
import Mathlib.Logic.Function.Basic

/-!
# Networks that exchange signaling messages

Every endpoint has a node with its own routing table and observers.  Messages
are in flight until the end of the run: each of them may arrive any number of
times, in any order, or never.  Whatever else a node does is a change of its
state, and whatever else is sent is a new message.

A packet remembers the messages that signaling servers handled to produce it, so
that chains of forwards can be told from it.
-/

namespace SsP2p.Ice

open Kademlia

structure SignalingNode where
  agent : IceAgent
  table : KRoutingTable
  io : IoContext

/-- A message that a signaling server handled, and whether what it sent is a copy
of it or an answer. -/
structure Hop where
  received : IceMessage
  isCopy : Bool

/-- A message in flight with the hops behind it, the latest one first. -/
structure Packet where
  src : Endpoint
  dest : Endpoint
  msg : Message
  trace : List Hop

namespace Packet

def iceMessage (packet : Packet) : Option IceMessage :=
  (packet.msg.getParam "ice_agent").bind fun iceParam =>
    (IceMessage.ofJson iceParam).toOption

/-- The messages that were forwarded one after the other to give this packet, the
latest one first. -/
def chain (packet : Packet) : List IceMessage :=
  (packet.trace.takeWhile Hop.isCopy).map Hop.received

end Packet

structure SignalingNetwork where
  nodes : Endpoint → SignalingNode
  inFlight : List Packet

namespace SignalingNetwork

inductive Event where
  /-- A node or an application sends a message of its own. -/
  | send (src dest : Endpoint) (msg : Message)
  /-- Anything else that a node does. -/
  | change (ep : Endpoint) (node : SignalingNode)
  /-- The packet at this position arrives; `id` is what a new observer draws. -/
  | deliver (position : ℕ) (id : Uuid)

variable (platform : Platform)

/-- A node that stores these endpoints and nothing else. -/
def knowing (ep : Endpoint) (known : List Endpoint) : SignalingNode where
  agent := ⟨ep, .empty⟩
  table := (KRoutingTable.empty (calcNodeId platform ep)).autoUpdateBatch platform known
  io := .start 0

def start (nodes : Endpoint → SignalingNode) : SignalingNetwork := ⟨nodes, []⟩

/-- A message whose ICE part is marked as relayed. -/
def isRelayed (msg : Message) : Bool :=
  match msg.getParam "ice_agent" with
  | some (.object fields) =>
      match IceMessage.getSubProtocol platform ⟨fields⟩ with
      | .ok code => code == SignalingSubProtocol.relay.code
      | .error _ => false
  | _ => false

/-- The hops behind what a node sends while it handles a packet. -/
def traceOf (node : SignalingNode) (packet : Packet) (sent : Message) : List Hop :=
  match node.agent.serverMessage platform packet.msg with
  | some iceMsg => ⟨iceMsg, isRelayed platform sent⟩ :: packet.trace
  | none => []

/-- A node handles a packet; one that raises has sent nothing. -/
def deliver (net : SignalingNetwork) (id : Uuid) (packet : Packet) :
    SignalingNetwork :=
  let node := net.nodes packet.dest
  match node.agent.incomeMessage platform node.table node.io id packet.msg packet.src with
  | .error _ => net
  | .ok (agent, io) =>
      { nodes := Function.update net.nodes packet.dest ⟨agent, node.table, io⟩
        inFlight := net.inFlight ++ (io.sent.drop node.io.sent.length).map fun out =>
          ⟨packet.dest, out.dest, out.msg, traceOf platform node packet out.msg⟩ }

def step (net : SignalingNetwork) : Event → Option SignalingNetwork
  | .send src dest msg => some
      { net with inFlight := net.inFlight ++ [⟨src, dest, msg, []⟩] }
  | .change ep node => some { net with nodes := Function.update net.nodes ep node }
  | .deliver position id =>
      (net.inFlight[position]?).map fun packet => net.deliver platform id packet

/-! ## What a delivery adds -/

/-- The packets that a node sends while it handles a packet. -/
inductive Delivery (node : SignalingNode) (packet : Packet) : List Packet → Prop where
  /-- An observer takes the message, or it is not a signaling message. -/
  | elsewhere (hserver : node.agent.serverMessage platform packet.msg = none)
      (sent : List Packet) (htrace : ∀ added ∈ sent, added.trace = []) :
      Delivery node packet sent
  /-- The destination answers. -/
  | answered (iceMsg : IceMessage)
      (hserver : node.agent.serverMessage platform packet.msg = some iceMsg)
      (hanswers : SignalingServer.Answers platform node.agent.selfEp iceMsg)
      (answer : Packet) (htrace : answer.trace = ⟨iceMsg, false⟩ :: packet.trace) :
      Delivery node packet [answer]
  /-- Any other node hands copies on. -/
  | handedOn (iceMsg : IceMessage)
      (hserver : node.agent.serverMessage platform packet.msg = some iceMsg)
      (hhandsOn : SignalingServer.HandsOn platform node.agent.selfEp node.table iceMsg)
      (sent : List Packet) (hsent : sent ≠ [])
      (htrace : ∀ added ∈ sent, added.trace = ⟨iceMsg, true⟩ :: packet.trace)
      (hcopy : ∀ added ∈ sent, ∃ copy relayEps, added.iceMessage = some copy ∧
        SignalingServer.IsCopy iceMsg copy relayEps) :
      Delivery node packet sent
  /-- The message goes no further. -/
  | dropped (iceMsg : IceMessage)
      (hserver : node.agent.serverMessage platform packet.msg = some iceMsg)
      (hanswers : ¬ SignalingServer.Answers platform node.agent.selfEp iceMsg)
      (hhandsOn :
        ¬ SignalingServer.HandsOn platform node.agent.selfEp node.table iceMsg) :
      Delivery node packet []

variable {platform}

theorem isRelayed_ofPart (iceMsg : IceMessage) :
    isRelayed platform (Message.ofPart "ice_agent" iceMsg.encode) =
      match iceMsg.getSubProtocol platform with
      | .ok code => code == SignalingSubProtocol.relay.code
      | .error _ => false := by
  rw [isRelayed, Message.getParam_ofPart, IceMessage.encode]

/-- The packets by which a node sends one message to several endpoints. -/
theorem drop_sendAll (io : IoContext) (iceMsg : IceMessage) (eps : List Endpoint) :
    (SignalingServer.sendAll io iceMsg eps).sent.drop io.sent.length =
      eps.map fun ep => ⟨ep, Message.ofPart "ice_agent" iceMsg.encode⟩ := by
  rw [SignalingServer.sendAll_eq, List.drop_left]

theorem iceMessage_ofPart (src dest : Endpoint) (iceMsg : IceMessage)
    (trace : List Hop) :
    Packet.iceMessage ⟨src, dest, Message.ofPart "ice_agent" iceMsg.encode, trace⟩ =
      some iceMsg := by
  rw [Packet.iceMessage, Message.getParam_ofPart]
  rfl

/-- A delivery to the signaling server that sends one message to some endpoints. -/
theorem deliver_eq {net : SignalingNetwork} {packet : Packet} {iceMsg copy : IceMessage}
    {strage : IceObserverStrage} {eps : List Endpoint} {id : Uuid}
    (hserver : (net.nodes packet.dest).agent.serverMessage platform packet.msg =
      some iceMsg)
    (hincome : SignalingServer.incomeMessage platform
        (net.nodes packet.dest).agent.selfEp (net.nodes packet.dest).table
        (net.nodes packet.dest).agent.obsStrage (net.nodes packet.dest).io id iceMsg =
      .ok (strage, SignalingServer.sendAll (net.nodes packet.dest).io copy eps)) :
    net.deliver platform id packet =
      { nodes := Function.update net.nodes packet.dest
          { net.nodes packet.dest with
            agent := { (net.nodes packet.dest).agent with obsStrage := strage }
            io := SignalingServer.sendAll (net.nodes packet.dest).io copy eps }
        inFlight := net.inFlight ++ eps.map fun ep =>
          ⟨packet.dest, ep, Message.ofPart "ice_agent" copy.encode,
            traceOf platform (net.nodes packet.dest) packet
              (Message.ofPart "ice_agent" copy.encode)⟩ } := by
  have hagent := IceAgent.incomeMessage_of_serverMessage hserver
    (net.nodes packet.dest).table (net.nodes packet.dest).io id packet.src
  rw [hincome] at hagent
  rw [deliver]
  simp only [hagent, Except.map, drop_sendAll, List.map_map]
  rfl

/-- A delivery adds what `Delivery` says, and nothing else. -/
theorem delivery_deliver (net : SignalingNetwork) (id : Uuid) (packet : Packet) :
    ∃ sent, (net.deliver platform id packet).inFlight = net.inFlight ++ sent ∧
      Delivery platform (net.nodes packet.dest) packet sent := by
  cases hserver : (net.nodes packet.dest).agent.serverMessage platform packet.msg with
  | none =>
      rw [deliver]
      split
      · exact ⟨[], by simp, Delivery.elsewhere hserver [] (by simp)⟩
      · refine ⟨_, rfl, Delivery.elsewhere hserver _ ?_⟩
        intro added hadded
        obtain ⟨out, -, rfl⟩ := List.mem_map.mp hadded
        simp only [traceOf, hserver]
  | some iceMsg =>
      have hincome := IceAgent.incomeMessage_of_serverMessage hserver
        (net.nodes packet.dest).table (net.nodes packet.dest).io id packet.src
      cases hresult : SignalingServer.incomeMessage platform
        (net.nodes packet.dest).agent.selfEp (net.nodes packet.dest).table
        (net.nodes packet.dest).agent.obsStrage (net.nodes packet.dest).io id iceMsg with
      | error fault =>
          rw [hresult] at hincome
          refine ⟨[], ?_, ?_⟩
          · rw [deliver]
            simp only [hincome, Except.map]
            simp
          · apply Delivery.dropped iceMsg hserver
            · intro hanswers
              obtain ⟨result, hok⟩ := SignalingServer.exists_of_answers hanswers
                (net.nodes packet.dest).agent.obsStrage (net.nodes packet.dest).io id
              rw [hresult] at hok
              cases hok
            · intro hhandsOn
              obtain ⟨result, hok⟩ := SignalingServer.exists_of_handsOn hhandsOn
                (net.nodes packet.dest).agent.obsStrage (net.nodes packet.dest).io id
              rw [hresult] at hok
              cases hok
      | ok result =>
          rw [hresult] at hincome
          rw [deliver]
          simp only [hincome, Except.map]
          refine ⟨_, rfl, ?_⟩
          cases SignalingServer.handling_of_incomeMessage hresult with
          | answered srcEp hanswers hsrc =>
              rw [drop_sendAll]
              apply Delivery.answered iceMsg hserver hanswers
              simp only [traceOf, hserver, isRelayed_ofPart,
                SignalingServer.responseMessage,
                IceMessage.getSubProtocol_setSignalingSubProtocol]
              rfl
          | handedOn copy relayEps eps hhandsOn hcopy heps =>
              rw [drop_sendAll, List.map_map]
              apply Delivery.handedOn iceMsg hserver hhandsOn
              · simpa using heps
              · intro added hadded
                obtain ⟨ep, -, rfl⟩ := List.mem_map.mp hadded
                simp only [Function.comp_apply, traceOf, hserver, isRelayed_ofPart,
                  SignalingServer.getSubProtocol_of_isCopy hcopy]
                rfl
              · intro added hadded
                obtain ⟨ep, -, rfl⟩ := List.mem_map.mp hadded
                exact ⟨copy, relayEps, iceMessage_ofPart _ _ copy _, hcopy⟩
          | kept hanswers hhandsOn next hnext =>
              rw [List.drop_length]
              exact Delivery.dropped iceMsg hserver hanswers hhandsOn

/-! ## Properties of every packet of a run -/

variable (platform)

/-- A condition on the deliveries of a run: on the node and the packet that
arrives there. -/
def AtDelivery (condition : SignalingNode → Packet → Prop) (net : SignalingNetwork) :
    Event → Prop
  | .deliver position _ => ∀ packet, net.inFlight[position]? = some packet →
      condition (net.nodes packet.dest) packet
  | _ => True

/-- A property that every message of its own has, and that a delivery keeps exactly
under a condition, holds throughout exactly the runs whose deliveries all meet the
condition. -/
theorem throughout_packets_iff {Property : Packet → Prop}
    {condition : SignalingNode → Packet → Prop}
    (hown : ∀ packet, packet.trace = [] → Property packet)
    (hexact : ∀ node packet sent, Delivery platform node packet sent →
      Property packet → ((∀ added ∈ sent, Property added) ↔ condition node packet))
    (nodes : Endpoint → SignalingNode) (events : List Event) :
    Runs.Throughout (step platform) (fun net => ∀ packet ∈ net.inFlight, Property packet)
        (start nodes) events ↔
      Runs.Meets (step platform) (AtDelivery condition) (start nodes) events := by
  apply Runs.throughout_iff_meets fun _ => True
  · intro net event next _ _
    trivial
  · intro net event next _ hproperty hstep
    cases event with
    | send src dest msg =>
        obtain rfl := Option.some.inj hstep
        refine iff_of_true (fun packet hpacket => ?_) trivial
        rcases List.mem_append.mp hpacket with hold | hnew
        · exact hproperty packet hold
        · obtain rfl := List.mem_singleton.mp hnew
          exact hown _ rfl
    | change ep node =>
        obtain rfl := Option.some.inj hstep
        exact iff_of_true hproperty trivial
    | deliver position id =>
        obtain ⟨packet, hposition, rfl⟩ := Option.map_eq_some_iff.mp hstep
        obtain ⟨sent, hinFlight, hdelivery⟩ := delivery_deliver net id packet
        have hpacket := hproperty packet (List.mem_of_getElem? hposition)
        have hiff := hexact _ packet sent hdelivery hpacket
        rw [hinFlight]
        constructor
        · intro hall other hother
          obtain rfl := Option.some.inj (hposition.symm.trans hother)
          exact hiff.mp fun added hadded => hall added (List.mem_append_right _ hadded)
        · intro hcondition added hadded
          rcases List.mem_append.mp hadded with hold | hnew
          · exact hproperty added hold
          · exact hiff.mpr (hcondition packet hposition) added hnew
  · intro net event hstuck
    cases event with
    | deliver position id =>
        intro packet hposition
        rw [step, hposition] at hstuck
        cases hstuck
    | _ => trivial
  · trivial
  · intro packet hpacket
    cases hpacket

end SignalingNetwork

end SsP2p.Ice

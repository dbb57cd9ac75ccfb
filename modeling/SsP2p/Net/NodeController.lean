import SsP2p.Ice.IceInert
import SsP2p.Kademlia.DhtReads
import SsP2p.Net.MessagePool

/-!
# The node controller

`node_controller` gives the bytes of a datagram to the two layers and stores the
message.  Nothing on the way from the event loop catches an exception.
-/

namespace SsP2p.Net

open Ice Kademlia

/-- `node_controller`, with the event loop that its parts share. -/
structure NodeController (platform : Platform) where
  dhtManager : DhtManager
  iceAgent : IceAgent
  msgPool : MessagePool platform
  io : IoContext

/-- What the random generators draw during one call, and what the usage counter of a
new buffer happens to hold. -/
structure Draws where
  observerId : Uuid
  messageId : Uuid
  usage : UInt64

namespace NodeController

variable {platform : Platform}

/-- The part of `on_receive_packet` for `"kademlia"`. -/
def incomeKademlia (msg : Message) (ep : Endpoint) (node : NodeController platform) :
    Except Fault (NodeController platform) :=
  if msg.isContainParam "kademlia" then do
    let (dhtManager, io) ← node.dhtManager.incomeMessage platform node.io msg ep
    return { node with dhtManager := dhtManager, io := io }
  else return node

/-- The part of `on_receive_packet` for `"ice_agent"`. -/
def incomeIceAgent (draws : Draws) (msg : Message) (ep : Endpoint)
    (node : NodeController platform) : Except Fault (NodeController platform) :=
  if msg.isContainParam "ice_agent" then do
    let (iceAgent, io) ← node.iceAgent.incomeMessage platform
      node.dhtManager.routingTable node.io draws.observerId msg ep
    return { node with iceAgent := iceAgent, io := io }
  else return node

/-- The store: `flag` is 1 unless the ICE agent was asked, which returns 0. -/
def storeMessage (draws : Draws) (msg : Message) (ep : Endpoint)
    (node : NodeController platform) : Except Fault (NodeController platform) :=
  if msg.isContainParam "ice_agent" then return node
  else do
    let msgPool ← node.msgPool.store node.io.now draws.messageId draws.usage msg ep
    return { node with msgPool := msgPool }

/-- Run the next part of the handler.  Each part raises before it changes anything, and
what raises ends the handler. -/
def andThen (part : NodeController platform → Except Fault (NodeController platform)) :
    NodeController platform × Except Fault Unit →
      NodeController platform × Except Fault Unit
  | (node, .error fault) => (node, .error fault)
  | (node, .ok ()) =>
      match part node with
      | .ok next => (next, .ok ())
      | .error fault => (node, .error fault)

/-- `on_receive_packet`: what it leaves of the node, and how it ends. -/
def onReceivePacket (node : NodeController platform) (draws : Draws)
    (raw : List UInt8) (ep : Endpoint) : NodeController platform × Except Fault Unit :=
  match Message.decode platform raw with
  | .error fault => (node, .error fault)
  | .ok msg =>
      andThen (storeMessage draws msg ep)
        (andThen (incomeIceAgent draws msg ep)
          (andThen (incomeKademlia msg ep) (node, .ok ())))

/-! ## The parts one by one -/

/-- Without its part a message passes the layer by. -/
theorem incomeKademlia_eq (msg : Message) (ep : Endpoint)
    (node : NodeController platform) :
    incomeKademlia msg ep node =
      (node.dhtManager.incomeMessage platform node.io msg ep).map fun result =>
        { node with dhtManager := result.1, io := result.2 } := by
  rw [incomeKademlia, Message.isContainParam]
  cases hparam : msg.getParam "kademlia" with
  | none =>
      rw [DhtManager.incomeMessage, hparam]
      rfl
  | some kParam =>
      rw [Option.isSome_some, if_pos rfl]
      cases node.dhtManager.incomeMessage platform node.io msg ep <;> rfl

/-- Without its part a message passes the layer by. -/
theorem incomeIceAgent_eq (draws : Draws) (msg : Message) (ep : Endpoint)
    (node : NodeController platform) :
    incomeIceAgent draws msg ep node =
      (node.iceAgent.incomeMessage platform node.dhtManager.routingTable node.io
        draws.observerId msg ep).map fun result =>
        { node with iceAgent := result.1, io := result.2 } := by
  rw [incomeIceAgent, Message.isContainParam]
  cases hparam : msg.getParam "ice_agent" with
  | none =>
      rw [IceAgent.incomeMessage, hparam]
      rfl
  | some iceParam =>
      rw [Option.isSome_some, if_pos rfl]
      cases node.iceAgent.incomeMessage platform node.dhtManager.routingTable node.io
        draws.observerId msg ep <;> rfl

/-- The store only fills the pool, and it always returns. -/
theorem exists_storeMessage (draws : Draws) (msg : Message) (ep : Endpoint)
    (node : NodeController platform) :
    ∃ msgPool, storeMessage draws msg ep node =
      .ok { node with msgPool := msgPool } := by
  rw [storeMessage]
  split
  · exact ⟨node.msgPool, rfl⟩
  · rw [MessagePool.store_eq]
    exact ⟨_, rfl⟩

/-- A call that returns ran both layers one after the other. -/
theorem onReceivePacket_of_ok {node : NodeController platform} {draws : Draws}
    {raw : List UInt8} {ep : Endpoint} {msg : Message}
    {kademlia : DhtManager × IoContext} {ice : IceAgent × IoContext}
    (hdecode : Message.decode platform raw = .ok msg)
    (hkademlia : node.dhtManager.incomeMessage platform node.io msg ep = .ok kademlia)
    (hice : node.iceAgent.incomeMessage platform kademlia.1.routingTable kademlia.2
      draws.observerId msg ep = .ok ice) :
    ∃ msgPool, node.onReceivePacket draws raw ep =
      (⟨kademlia.1, ice.1, msgPool, ice.2⟩, .ok ()) := by
  have hfirst : incomeKademlia msg ep node =
      .ok { node with dhtManager := kademlia.1, io := kademlia.2 } := by
    rw [incomeKademlia_eq, hkademlia]
    rfl
  have hsecond : incomeIceAgent draws msg ep
      { node with dhtManager := kademlia.1, io := kademlia.2 } =
        .ok ⟨kademlia.1, ice.1, node.msgPool, ice.2⟩ := by
    rw [incomeIceAgent_eq, hice]
    rfl
  obtain ⟨msgPool, hstore⟩ := exists_storeMessage draws msg ep
    (⟨kademlia.1, ice.1, node.msgPool, ice.2⟩ : NodeController platform)
  refine ⟨msgPool, ?_⟩
  simp only [onReceivePacket, hdecode, andThen, hfirst, hsecond, hstore]

/-- A call returns exactly when the bytes are a document and both layers return. -/
theorem isOk_onReceivePacket_iff {node : NodeController platform} {draws : Draws}
    {raw : List UInt8} {ep : Endpoint} :
    (node.onReceivePacket draws raw ep).2.isOk = true ↔
      ∃ msg, Message.decode platform raw = .ok msg ∧ ∃ kademlia,
        node.dhtManager.incomeMessage platform node.io msg ep = .ok kademlia ∧
        (node.iceAgent.incomeMessage platform kademlia.1.routingTable kademlia.2
          draws.observerId msg ep).isOk = true := by
  constructor
  · intro hreturns
    cases hdecode : Message.decode platform raw with
    | error fault =>
        simp only [onReceivePacket, hdecode] at hreturns
        cases hreturns
    | ok msg =>
        refine ⟨msg, rfl, ?_⟩
        simp only [onReceivePacket, hdecode, andThen, incomeKademlia_eq] at hreturns
        cases hkademlia : node.dhtManager.incomeMessage platform node.io msg ep with
        | error fault =>
            rw [hkademlia] at hreturns
            cases hreturns
        | ok kademlia =>
            refine ⟨kademlia, rfl, ?_⟩
            simp only [hkademlia, Except.map, incomeIceAgent_eq] at hreturns
            cases hice : node.iceAgent.incomeMessage platform kademlia.1.routingTable
                kademlia.2 draws.observerId msg ep with
            | error fault =>
                rw [hice] at hreturns
                cases hreturns
            | ok ice => rfl
  · rintro ⟨msg, hdecode, kademlia, hkademlia, hreturns⟩
    obtain ⟨ice, hice⟩ := Fallible.isOk_iff.mp hreturns
    obtain ⟨msgPool, hresult⟩ := onReceivePacket_of_ok hdecode hkademlia hice
    rw [hresult]
    rfl

end NodeController

end SsP2p.Net

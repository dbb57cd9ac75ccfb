import SsP2p.Core.MessageCodec
import SsP2p.Net.NodeController

/-!
# Receiving arbitrary bytes

`on_receive_packet` runs inside the event loop and nothing catches what it raises.  It
returns exactly when every field that the handlers read of the message converts, and
a message with a field that is missing or mistyped is dropped exactly when its handlers
find nothing to do.
-/

namespace SsP2p.Net.NodeController

open Ice Kademlia

variable {platform : Platform}

/-- What the handlers read of a message, one layer after the other. -/
def reads (node : NodeController platform) (msg : Message) (ep : Endpoint) :
    List FieldRead :=
  node.dhtManager.reads platform msg ++
    node.iceAgent.reads platform (node.dhtManager.tableAfter platform msg ep) msg

/-- The handlers of both layers do nothing with the message. -/
def Inert (node : NodeController platform) (draws : Draws) (msg : Message)
    (ep : Endpoint) : Prop :=
  node.dhtManager.Inert platform msg ∧
    node.iceAgent.Inert platform node.dhtManager.routingTable node.io draws.observerId
      msg ep

/-- The processing of the datagram was dropped: the routing table, the observers and
the event loop with all that is sent are as before. -/
structure Dropped (before after : NodeController platform) : Prop where
  dhtManager : after.dhtManager = before.dhtManager
  iceAgent : after.iceAgent = before.iceAgent
  io : after.io = before.io

/-- The call returns, and what is no well-formed message is dropped. -/
def HandlesSafely (node : NodeController platform) (draws : Draws) (raw : List UInt8)
    (ep : Endpoint) : Prop :=
  (node.onReceivePacket draws raw ep).2.isOk = true ∧
    ((∀ msg, Message.decode platform raw = .ok msg → Malformed (node.reads msg ep)) →
      Dropped node (node.onReceivePacket draws raw ep).1)

/-- The bytes are a document, every read of it goes through, and when one of the fields
is missing or mistyped all the same, the handlers do nothing. -/
def ReadsThrough (node : NodeController platform) (draws : Draws) (raw : List UInt8)
    (ep : Endpoint) : Prop :=
  ∃ msg, Message.decode platform raw = .ok msg ∧ AllConvert (node.reads msg ep) ∧
    (Malformed (node.reads msg ep) → node.Inert draws msg ep)

theorem isOk_onReceivePacket_iff_allConvert {node : NodeController platform}
    {draws : Draws} {raw : List UInt8} {ep : Endpoint} :
    (node.onReceivePacket draws raw ep).2.isOk = true ↔
      ∃ msg, Message.decode platform raw = .ok msg ∧ AllConvert (node.reads msg ep) := by
  rw [isOk_onReceivePacket_iff]
  apply exists_congr
  intro msg
  apply and_congr_right
  intro hdecode
  rw [reads, allConvert_append,
    ← node.dhtManager.isOk_incomeMessage_iff node.io msg ep]
  constructor
  · rintro ⟨kademlia, hkademlia, hice⟩
    rw [IceAgent.isOk_incomeMessage_iff,
      DhtManager.routingTable_of_incomeMessage hkademlia] at hice
    exact ⟨Fallible.isOk_iff.mpr ⟨kademlia, hkademlia⟩, hice⟩
  · rintro ⟨hreturns, hice⟩
    obtain ⟨kademlia, hkademlia⟩ := Fallible.isOk_iff.mp hreturns
    rw [← DhtManager.routingTable_of_incomeMessage hkademlia] at hice
    exact ⟨kademlia, hkademlia, (IceAgent.isOk_incomeMessage_iff _ _ _ _ _ ep).mpr hice⟩

/-- A message that is handled is dropped exactly when both layers do nothing. -/
theorem dropped_iff {node : NodeController platform} {draws : Draws}
    {raw : List UInt8} {ep : Endpoint} {msg : Message}
    (hdecode : Message.decode platform raw = .ok msg)
    (hreturns : (node.onReceivePacket draws raw ep).2.isOk = true) :
    Dropped node (node.onReceivePacket draws raw ep).1 ↔ node.Inert draws msg ep := by
  obtain ⟨other, hother, kademlia, hkademlia, hiceReturns⟩ :=
    isOk_onReceivePacket_iff.mp hreturns
  obtain rfl := Except.ok.inj (hdecode.symm.trans hother)
  obtain ⟨ice, hice⟩ := Fallible.isOk_iff.mp hiceReturns
  obtain ⟨msgPool, hresult⟩ := onReceivePacket_of_ok hdecode hkademlia hice
  rw [hresult, Inert, ← DhtManager.eq_self_iff_of_incomeMessage hkademlia]
  constructor
  · rintro ⟨hdhtManager, hiceAgent, hio⟩
    have htakesNothingBack := IceAgent.handedOver_le hice
    have hkademliaIo : kademlia.2 = node.io := by
      apply (DhtManager.eq_or_handedOver_lt hkademlia).resolve_right
      simp only at hio
      rw [hio] at htakesNothingBack
      omega
    have hkademliaEq : kademlia = (node.dhtManager, node.io) :=
      Prod.ext hdhtManager hkademliaIo
    refine ⟨hkademliaEq, ?_⟩
    rw [hkademliaEq] at hice
    exact (IceAgent.eq_self_iff_of_incomeMessage hice).mp (Prod.ext hiceAgent hio)
  · rintro ⟨rfl, hinert⟩
    obtain rfl := (IceAgent.eq_self_iff_of_incomeMessage hice).mpr hinert
    exact ⟨rfl, rfl, rfl⟩

/-- The handler is safe on exactly the bytes whose fields all convert, where a missing
or mistyped field makes it do nothing. -/
theorem handlesSafely_iff (node : NodeController platform) (draws : Draws)
    (raw : List UInt8) (ep : Endpoint) :
    node.HandlesSafely draws raw ep ↔ node.ReadsThrough draws raw ep := by
  constructor
  · rintro ⟨hreturns, hdropped⟩
    obtain ⟨msg, hdecode, hconvert⟩ := isOk_onReceivePacket_iff_allConvert.mp hreturns
    refine ⟨msg, hdecode, hconvert, fun hmalformed => ?_⟩
    apply (dropped_iff hdecode hreturns).mp
    apply hdropped
    intro other hother
    obtain rfl := Except.ok.inj (hdecode.symm.trans hother)
    exact hmalformed
  · rintro ⟨msg, hdecode, hconvert, hinert⟩
    have hreturns : (node.onReceivePacket draws raw ep).2.isOk = true :=
      isOk_onReceivePacket_iff_allConvert.mpr ⟨msg, hdecode, hconvert⟩
    refine ⟨hreturns, fun hmalformed => ?_⟩
    exact (dropped_iff hdecode hreturns).mpr (hinert (hmalformed msg hdecode))

/-- The bytes of the document `{"kademlia": {}}`. -/
def noRpc : List UInt8 :=
  [20, 0, 0, 0, 3] ++ bytesOf "kademlia" ++ [0, 5, 0, 0, 0, 0, 0]

example : Bson.fromBson noRpc = .ok (.object [("kademlia", .object [])]) := rfl

def freshNode : NodeController bsonPlatform :=
  ⟨.make bsonPlatform (nodeAt 1), ⟨nodeAt 1, .empty⟩, .empty, .start 0⟩

/-- A Kademlia part without an rpc makes the handler read an absent key. -/
theorem not_handlesSafely_noRpc :
    (freshNode.onReceivePacket ⟨1, 2, 0⟩ noRpc (nodeAt 2)).2 =
        .error (.missingKey "rpc") ∧
      ¬ freshNode.HandlesSafely ⟨1, 2, 0⟩ noRpc (nodeAt 2) := by
  have hfault : (freshNode.onReceivePacket ⟨1, 2, 0⟩ noRpc (nodeAt 2)).2 =
      .error (.missingKey "rpc") := by
    rfl
  refine ⟨hfault, ?_⟩
  rintro ⟨hreturns, -⟩
  rw [hfault] at hreturns
  cases hreturns

end SsP2p.Net.NodeController

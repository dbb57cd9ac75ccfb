import SsP2p.Core.HostPlatform
import SsP2p.Ice.SignalingNetwork

/-!
# The ttl of signaling messages

The ttl should bound the chains of forwards.  No node decrements it, so that a
copy carries the ttl of the message it is a copy of, and a node that knows the
destination does not look at it: the bound holds as long as nothing is handed on.
-/

namespace SsP2p.Ice.SignalingNetwork

open Kademlia

variable (platform : Platform)

/-- The ttl does its work for a packet: a forwarded copy has a smaller ttl than the
message it is a copy of, which had not run out, and the chain of forwards behind
the packet is not longer than the ttl it began with. -/
structure TtlBounded (packet : Packet) : Prop where
  decreases : ∀ received, packet.chain.head? = some received →
    ∃ copy ttl copiedTtl, packet.iceMessage = some copy ∧
      received.getTtl platform = .ok ttl ∧ copy.getTtl platform = .ok copiedTtl ∧
      0 < ttl ∧ copiedTtl < ttl
  bounds : ∀ first, packet.chain.getLast? = some first →
    ∃ ttl, first.getTtl platform = .ok ttl ∧ (packet.chain.length : ℤ) ≤ ttl

/-- The node does not hand the packet on: an observer takes it, or the node is the
destination, or it neither knows the destination nor, while the ttl lasts, a node
that has not seen the message, or a field cannot be read. -/
def KeepsToItself (node : SignalingNode) (packet : Packet) : Prop :=
  ∀ iceMsg, node.agent.serverMessage platform packet.msg = some iceMsg →
    ¬ SignalingServer.HandsOn platform node.agent.selfEp node.table iceMsg

variable {platform}

theorem ttlBounded_of_chain {packet : Packet} (hchain : packet.chain = []) :
    TtlBounded platform packet := by
  constructor
  · intro received hreceived
    rw [hchain] at hreceived
    cases hreceived
  · intro first hfirst
    rw [hchain] at hfirst
    cases hfirst

/-- A copy has the ttl of the message that it is a copy of. -/
theorem not_ttlBounded_of_isCopy {packet : Packet} {iceMsg copy : IceMessage}
    {hops : List Hop} {relayEps : List Json}
    (htrace : packet.trace = ⟨iceMsg, true⟩ :: hops)
    (hmessage : packet.iceMessage = some copy)
    (hcopy : SignalingServer.IsCopy iceMsg copy relayEps) :
    ¬ TtlBounded platform packet := by
  intro hbounded
  have hhead : packet.chain.head? = some iceMsg := by
    rw [Packet.chain, htrace]
    rfl
  obtain ⟨other, ttl, copiedTtl, hother, httl, hcopied, -, hlt⟩ :=
    hbounded.decreases iceMsg hhead
  obtain rfl := Option.some.inj (hmessage.symm.trans hother)
  rw [SignalingServer.getTtl_of_isCopy hcopy, httl] at hcopied
  exact absurd (Except.ok.inj hcopied) (ne_of_gt hlt)

theorem ttlBounded_delivery_iff {node : SignalingNode} {packet : Packet}
    {sent : List Packet} (hdelivery : Delivery platform node packet sent) :
    (∀ added ∈ sent, TtlBounded platform added) ↔
      KeepsToItself platform node packet := by
  cases hdelivery with
  | elsewhere hserver sent htrace =>
      apply iff_of_true
      · intro added hadded
        apply ttlBounded_of_chain
        rw [Packet.chain, htrace added hadded]
        rfl
      · intro iceMsg hiceMsg
        rw [hserver] at hiceMsg
        cases hiceMsg
  | answered iceMsg hserver hanswers answer htrace =>
      apply iff_of_true
      · intro added hadded
        obtain rfl := List.mem_singleton.mp hadded
        apply ttlBounded_of_chain
        rw [Packet.chain, htrace]
        rfl
      · intro other hother
        obtain rfl := Option.some.inj (hserver.symm.trans hother)
        exact SignalingServer.not_handsOn_of_answers hanswers
  | handedOn iceMsg hserver hhandsOn sent hsent htrace hcopy =>
      apply iff_of_false
      · intro hall
        obtain ⟨added, hadded⟩ := List.exists_mem_of_ne_nil sent hsent
        obtain ⟨copy, relayEps, hmessage, hisCopy⟩ := hcopy added hadded
        exact not_ttlBounded_of_isCopy (htrace added hadded) hmessage hisCopy
          (hall added hadded)
      · intro hkeeps
        exact hkeeps iceMsg hserver hhandsOn
  | dropped iceMsg hserver hanswers hhandsOn =>
      apply iff_of_true
      · intro added hadded
        cases hadded
      · intro other hother
        obtain rfl := Option.some.inj (hserver.symm.trans hother)
        exact hhandsOn

/-- The ttl bounds relaying throughout exactly those runs in which no node hands a
message on. -/
theorem throughout_ttlBounded_iff (nodes : Endpoint → SignalingNode)
    (events : List Event) :
    Runs.Throughout (step platform)
        (fun net => ∀ packet ∈ net.inFlight, TtlBounded platform packet)
        (start nodes) events ↔
      Runs.Meets (step platform) (AtDelivery (KeepsToItself platform)) (start nodes)
        events := by
  apply throughout_packets_iff
  · intro packet htrace
    apply ttlBounded_of_chain
    rw [Packet.chain, htrace]
    rfl
  · intro node packet sent hdelivery _
    exact ttlBounded_delivery_iff hdelivery

/-! ## A message whose ttl has run out -/

/-- `10.0.0.1` knows `10.0.0.2`; the other nodes know nobody. -/
def oneKnowsTwo (ep : Endpoint) : SignalingNode :=
  if ep = nodeAt 1 then knowing (hostPlatform []) ep [nodeAt 2]
  else knowing (hostPlatform []) ep []

/-- A request of `10.0.0.3` to `10.0.0.2` with ttl 0. -/
def expiredRequest : Message :=
  let obs := SignalingRequest.make 1 0 (nodeAt 2) "messenger" .null
  let iceMsg := obs.requestMessage (hostPlatform []) (nodeAt 3)
  Message.ofPart "ice_agent" (iceMsg.set "ttl" (.integer 0)).encode

/-- `10.0.0.1` knows the destination, and forwards a request whose ttl has run out
with the same ttl. -/
theorem not_ttlBounded_expired :
    ¬ Runs.Throughout (step (hostPlatform []))
      (fun net => ∀ packet ∈ net.inFlight, TtlBounded (hostPlatform []) packet)
      (start oneKnowsTwo)
      [.send (nodeAt 3) (nodeAt 1) expiredRequest, .deliver 0 2] := by
  intro hthroughout
  have hchain : ((Runs.execute (step (hostPlatform [])) (start oneKnowsTwo)
      [.send (nodeAt 3) (nodeAt 1) expiredRequest, .deliver 0 2]).bind fun net =>
        net.inFlight[1]?.bind fun packet => packet.chain.getLast?.bind fun first =>
          (first.getTtl (hostPlatform [])).toOption.map fun ttl =>
            (packet.chain.length, ttl)) = some (1, 0) := by
    decide +kernel
  obtain ⟨net, hnet, hchain⟩ := Option.bind_eq_some_iff.mp hchain
  obtain ⟨packet, hpacket, hchain⟩ := Option.bind_eq_some_iff.mp hchain
  obtain ⟨first, hfirst, hchain⟩ := Option.bind_eq_some_iff.mp hchain
  obtain ⟨ttl, httl, hpair⟩ := Option.map_eq_some_iff.mp hchain
  obtain ⟨hlength, rfl⟩ := Prod.mk.inj hpair
  have hbounded := Runs.last_of_throughout hthroughout hnet packet
    (List.mem_of_getElem? hpacket)
  obtain ⟨other, hother, hle⟩ := hbounded.bounds first hfirst
  rw [Fallible.toOption_eq_some_iff, hother] at httl
  obtain rfl := Except.ok.inj httl
  rw [hlength] at hle
  exact absurd hle (by decide)

end SsP2p.Ice.SignalingNetwork

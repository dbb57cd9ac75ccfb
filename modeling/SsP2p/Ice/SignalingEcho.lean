import SsP2p.Core.HostPlatform
import SsP2p.Ice.SignalingNetwork

/-!
# Late signaling responses

A response should end at the `signaling_request` observer that waits for it.  The
signaling server does not look at the sub protocol: when the observer is gone, it
handles a response like a request, so that the origin forwards it and the
destination answers it once more.
-/

namespace SsP2p.Ice.SignalingNetwork

open Kademlia

variable (platform : Platform)

def IsResponse (iceMsg : IceMessage) : Prop :=
  iceMsg.getSubProtocol platform = .ok SignalingSubProtocol.response.code

/-- No response is among the messages that signaling servers handled to produce
this packet. -/
def NoEcho (packet : Packet) : Prop :=
  ∀ hop ∈ packet.trace, ¬ IsResponse platform hop.received

/-- The node ends a response: an observer takes it, or the node is not the
destination and neither knows it nor, while the ttl lasts, a node that has not
seen the message, or a field cannot be read. -/
def EndsResponse (node : SignalingNode) (packet : Packet) : Prop :=
  ∀ iceMsg, node.agent.serverMessage platform packet.msg = some iceMsg →
    IsResponse platform iceMsg →
      ¬ SignalingServer.Answers platform node.agent.selfEp iceMsg ∧
        ¬ SignalingServer.HandsOn platform node.agent.selfEp node.table iceMsg

variable {platform}

/-- One more hop echoes nothing when what it handled is no response. -/
theorem noEcho_cons_iff {packet added : Packet} {hop : Hop}
    (htrace : added.trace = hop :: packet.trace) (hpacket : NoEcho platform packet) :
    NoEcho platform added ↔ ¬ IsResponse platform hop.received := by
  rw [NoEcho, htrace, List.forall_mem_cons]
  exact and_iff_left hpacket

theorem noEcho_delivery_iff {node : SignalingNode} {packet : Packet}
    {sent : List Packet} (hdelivery : Delivery platform node packet sent)
    (hpacket : NoEcho platform packet) :
    (∀ added ∈ sent, NoEcho platform added) ↔ EndsResponse platform node packet := by
  cases hdelivery with
  | elsewhere hserver sent htrace =>
      apply iff_of_true
      · intro added hadded hop hhop
        rw [htrace added hadded] at hhop
        cases hhop
      · intro iceMsg hiceMsg
        rw [hserver] at hiceMsg
        cases hiceMsg
  | answered iceMsg hserver hanswers answer htrace =>
      have hnoEcho := noEcho_cons_iff htrace hpacket
      constructor
      · intro hall other hother hresponse
        obtain rfl := Option.some.inj (hserver.symm.trans hother)
        exact absurd hresponse (hnoEcho.mp (hall answer (List.mem_singleton_self _)))
      · intro hends added hadded
        obtain rfl := List.mem_singleton.mp hadded
        exact hnoEcho.mpr fun hresponse => (hends iceMsg hserver hresponse).1 hanswers
  | handedOn iceMsg hserver hhandsOn sent hsent htrace hcopy =>
      constructor
      · intro hall other hother hresponse
        obtain rfl := Option.some.inj (hserver.symm.trans hother)
        obtain ⟨added, hadded⟩ := List.exists_mem_of_ne_nil sent hsent
        have hnoEcho := noEcho_cons_iff (htrace added hadded) hpacket
        exact absurd hresponse (hnoEcho.mp (hall added hadded))
      · intro hends added hadded
        have hnoEcho := noEcho_cons_iff (htrace added hadded) hpacket
        exact hnoEcho.mpr fun hresponse => (hends iceMsg hserver hresponse).2 hhandsOn
  | dropped iceMsg hserver hanswers hhandsOn =>
      apply iff_of_true
      · intro added hadded
        cases hadded
      · intro other hother _
        obtain rfl := Option.some.inj (hserver.symm.trans hother)
        exact ⟨hanswers, hhandsOn⟩

/-- No signaling message is ever sent because of a response throughout exactly
those runs in which every response that arrives ends at its node. -/
theorem throughout_noEcho_iff (nodes : Endpoint → SignalingNode)
    (events : List Event) :
    Runs.Throughout (step platform)
        (fun net => ∀ packet ∈ net.inFlight, NoEcho platform packet)
        (start nodes) events ↔
      Runs.Meets (step platform) (AtDelivery (EndsResponse platform)) (start nodes)
        events := by
  apply throughout_packets_iff
  · intro packet htrace hop hhop
    rw [htrace] at hhop
    cases hhop
  · intro node packet sent hdelivery hpacket
    exact noEcho_delivery_iff hdelivery hpacket

/-! ## An exchange without end -/

/-- A message between two nodes that either of them reads without failing. -/
structure Circulates (platform : Platform) (obsId : Uuid) (origin dest : Endpoint)
    (iceMsg : IceMessage) : Prop where
  protocol : iceMsg.getProtocol = .signaling
  observerId : iceMsg.getObserverId platform = .ok obsId
  destEp : iceMsg.getDestEndpoint platform = .ok dest
  srcEp : iceMsg.getSrcEndpoint platform = .ok origin
  relayEps : ∃ items, iceMsg.get "relay_eps" = .array items

/-- Neither the relay endpoints nor the sub protocol matter. -/
theorem circulates_of_agree {obsId : Uuid} {origin dest : Endpoint}
    {iceMsg copy : IceMessage} (hcirculates : Circulates platform obsId origin dest iceMsg)
    (hagree : ∀ key, key ≠ "relay_eps" → key ≠ "sub_protocol" →
      copy.get key = iceMsg.get key)
    (hrelayEps : ∃ items, copy.get "relay_eps" = .array items) :
    Circulates platform obsId origin dest copy where
  protocol := by
    rw [IceMessage.getProtocol, hagree "protocol" (by decide) (by decide)]
    exact hcirculates.protocol
  observerId := by
    rw [IceMessage.getObserverId, hagree "observer_id" (by decide) (by decide)]
    exact hcirculates.observerId
  destEp := by
    rw [IceMessage.getDestEndpoint, IceMessage.getEndpoint,
      hagree "dest_ip" (by decide) (by decide), hagree "dest_port" (by decide) (by decide)]
    exact hcirculates.destEp
  srcEp := by
    rw [IceMessage.getSrcEndpoint, IceMessage.getEndpoint,
      hagree "src_ip" (by decide) (by decide), hagree "src_port" (by decide) (by decide)]
    exact hcirculates.srcEp
  relayEps := hrelayEps

/-- The origin knows the destination, and neither stores an observer with the id of
the message that has just been sent to the origin. -/
structure Exchanging (platform : Platform) (obsId : Uuid) (origin dest : Endpoint)
    (net : SignalingNetwork) : Prop where
  distinct : dest ≠ origin
  originSelf : (net.nodes origin).agent.selfEp = origin
  destSelf : (net.nodes dest).agent.selfEp = dest
  originServer : (net.nodes origin).agent.obsStrage.signalingReceiver obsId = .server
  destServer : (net.nodes dest).agent.obsStrage.signalingReceiver obsId = .server
  knows : (net.nodes origin).table.isExistEndpoint platform dest = true
  arriving : ∃ packet iceMsg, net.inFlight.getLast? = some packet ∧
    packet.dest = origin ∧ packet.iceMessage = some iceMsg ∧
    Circulates platform obsId origin dest iceMsg

/-- A message that circulates reaches the signaling server of a node without an
observer for it. -/
theorem serverMessage_of_circulates {obsId : Uuid} {origin dest : Endpoint}
    {packet : Packet} {iceMsg : IceMessage} {agent : IceAgent}
    (hmessage : packet.iceMessage = some iceMsg)
    (hcirculates : Circulates platform obsId origin dest iceMsg)
    (hreceiver : agent.obsStrage.signalingReceiver obsId = .server) :
    agent.serverMessage platform packet.msg = some iceMsg := by
  obtain ⟨iceParam, hparam, hofJson⟩ := Option.bind_eq_some_iff.mp hmessage
  rw [IceAgent.serverMessage, hparam, Option.bind_eq_bind, Option.bind_some, hofJson]
  simp only [Option.bind_eq_bind, Option.bind_some, hcirculates.observerId,
    hcirculates.protocol, Except.toOption, hreceiver]

/-- A new observer with another id is not found under this one. -/
theorem signalingReceiver_addRelay {strage : IceObserverStrage} {obsId id : Uuid}
    (hid : id ≠ obsId) (now : ℕ)
    (hreceiver : strage.signalingReceiver obsId = .server) :
    (strage.addRelay (.make id now)).signalingReceiver obsId = .server := by
  rw [IceObserverStrage.signalingReceiver_eq_server_iff] at hreceiver ⊢
  obtain ⟨hrelays, hrequests, hresponses⟩ := hreceiver
  refine ⟨?_, hrequests, hresponses⟩
  rw [IceObserverStrage.addRelay, KeyedList.find_insert_of_ne _ hid, hrelays]

theorem signalingReceiver_addResponse {strage : IceObserverStrage} {obsId id : Uuid}
    (hid : id ≠ obsId) (now : ℕ)
    (hreceiver : strage.signalingReceiver obsId = .server) :
    (strage.addResponse (.make id now)).signalingReceiver obsId = .server := by
  rw [IceObserverStrage.signalingReceiver_eq_server_iff] at hreceiver ⊢
  obtain ⟨hrelays, hrequests, hresponses⟩ := hreceiver
  refine ⟨hrelays, hrequests, ?_⟩
  rw [IceObserverStrage.addResponse, KeyedList.find_insert_of_ne _ hid, hresponses]

/-- A delivery that leaves the receiving node as it was but for its observers and its
event loop, and adds one packet that circulates. -/
def PassesOn (platform : Platform) (obsId : Uuid) (origin dest : Endpoint)
    (net : SignalingNetwork) (id : Uuid) (packet : Packet) (target : Endpoint) : Prop :=
  ∃ strage io added, net.deliver platform id packet =
      { nodes := Function.update net.nodes packet.dest
          { net.nodes packet.dest with
            agent := { (net.nodes packet.dest).agent with obsStrage := strage }
            io := io }
        inFlight := net.inFlight ++ [added] } ∧
    strage.signalingReceiver obsId = .server ∧ added.dest = target ∧
    ∃ copy, added.iceMessage = some copy ∧
      Circulates platform obsId origin dest copy

/-- The origin relays the message to the destination. -/
theorem passesOn_origin {obsId id : Uuid} {dest : Endpoint} (net : SignalingNetwork)
    {packet : Packet} {iceMsg : IceMessage}
    (hmessage : packet.iceMessage = some iceMsg)
    (hcirculates : Circulates platform obsId packet.dest dest iceMsg)
    (hself : (net.nodes packet.dest).agent.selfEp = packet.dest)
    (hreceiver :
      (net.nodes packet.dest).agent.obsStrage.signalingReceiver obsId = .server)
    (hknows : (net.nodes packet.dest).table.isExistEndpoint platform dest = true)
    (hdistinct : dest ≠ packet.dest) (hid : id ≠ obsId) :
    PassesOn platform obsId packet.dest dest net id packet dest := by
  have hserver := serverMessage_of_circulates hmessage hcirculates hreceiver
  obtain ⟨items, hitems⟩ := hcirculates.relayEps
  have hadd := IceMessage.addRelayEndpoint_eq_ok_iff.mpr
    ⟨items, Or.inl hitems, (rfl : iceMsg.set "relay_eps" (.array (items ++
      [.string (endpointToStr platform (net.nodes packet.dest).agent.selfEp)])) = _)⟩
  have hrelay : SignalingServer.relayMessage platform
      (net.nodes packet.dest).agent.selfEp iceMsg = .ok
        ((iceMsg.set "relay_eps" (.array (items ++ [.string (endpointToStr platform
          (net.nodes packet.dest).agent.selfEp)]))).setSignalingSubProtocol .relay) := by
    rw [SignalingServer.relayMessage, hadd]
    rfl
  have hcopy := SignalingServer.isCopy_relayMessage hrelay
  have hincome := SignalingServer.incomeMessage_of_isExist hcirculates.destEp
    (hself.symm ▸ hdistinct) hrelay hknows (net.nodes packet.dest).agent.obsStrage
    (net.nodes packet.dest).io id
  refine ⟨_, _, _, deliver_eq hserver hincome,
    signalingReceiver_addRelay hid _ hreceiver, rfl, _,
    iceMessage_ofPart _ _ _ _, circulates_of_agree hcirculates hcopy.rest ?_⟩
  obtain ⟨items, -, hrelayEps⟩ := hcopy.relayEps
  exact ⟨_, hrelayEps⟩

/-- The destination answers the message to the origin. -/
theorem passesOn_dest {obsId id : Uuid} {origin : Endpoint} (net : SignalingNetwork)
    {packet : Packet} {iceMsg : IceMessage}
    (hmessage : packet.iceMessage = some iceMsg)
    (hcirculates : Circulates platform obsId origin packet.dest iceMsg)
    (hself : (net.nodes packet.dest).agent.selfEp = packet.dest)
    (hreceiver :
      (net.nodes packet.dest).agent.obsStrage.signalingReceiver obsId = .server)
    (hid : id ≠ obsId) :
    PassesOn platform obsId origin packet.dest net id packet origin := by
  have hserver := serverMessage_of_circulates hmessage hcirculates hreceiver
  have hdestEp : iceMsg.getDestEndpoint platform =
      .ok (net.nodes packet.dest).agent.selfEp := by
    rw [hself]
    exact hcirculates.destEp
  have hincome := SignalingServer.incomeMessage_of_dest hdestEp hcirculates.srcEp
    (net.nodes packet.dest).table (net.nodes packet.dest).agent.obsStrage
    (net.nodes packet.dest).io id
  refine ⟨_, _, _, deliver_eq hserver hincome,
    signalingReceiver_addResponse hid _ hreceiver, rfl, _,
    iceMessage_ofPart _ _ _ _, circulates_of_agree hcirculates ?_ ?_⟩
  · intro key _ hkey
    exact IceMessage.get_setSignalingSubProtocol hkey iceMsg .response
  · obtain ⟨items, hitems⟩ := hcirculates.relayEps
    refine ⟨items, ?_⟩
    rw [SignalingServer.responseMessage,
      IceMessage.get_setSignalingSubProtocol (by decide), hitems]

/-- The origin relays what arrives, the destination answers it, and the answer
arrives at the origin like the message before. -/
theorem exchanging_deliver {obsId id nextId : Uuid} {origin dest : Endpoint}
    {net : SignalingNetwork} (hexchanging : Exchanging platform obsId origin dest net)
    (hid : id ≠ obsId) (hnextId : nextId ≠ obsId) :
    ∃ next, Runs.execute (step platform) net
        [.deliver (net.inFlight.length - 1) id, .deliver net.inFlight.length nextId] =
          some next ∧
      next.inFlight.length = net.inFlight.length + 2 ∧
      Exchanging platform obsId origin dest next := by
  obtain ⟨packet, iceMsg, hlast, rfl, hmessage, hcirculates⟩ := hexchanging.arriving
  obtain ⟨strage, io, relayed, hrelayed, hreceiver, rfl, copy, hcopy, hcopyCirculates⟩ :=
    passesOn_origin net hmessage hcirculates hexchanging.originSelf
      hexchanging.originServer hexchanging.knows hexchanging.distinct hid
  have horiginNode : (net.deliver platform id packet).nodes packet.dest =
      { net.nodes packet.dest with
        agent := { (net.nodes packet.dest).agent with obsStrage := strage }
        io := io } := by
    rw [hrelayed]
    exact Function.update_self _ _ _
  have hdestNode : (net.deliver platform id packet).nodes relayed.dest =
      net.nodes relayed.dest := by
    rw [hrelayed]
    exact Function.update_of_ne hexchanging.distinct _ _
  obtain ⟨destStrage, destIo, answer, hanswer, hdestReceiver, hback, reply, hreply,
      hreplyCirculates⟩ :=
    passesOn_dest (net.deliver platform id packet) hcopy hcopyCirculates
      (hdestNode ▸ hexchanging.destSelf) (hdestNode ▸ hexchanging.destServer) hnextId
  have hfirst : net.inFlight[net.inFlight.length - 1]? = some packet := by
    rw [← List.getLast?_eq_getElem?, hlast]
  have hsecond : (net.deliver platform id packet).inFlight[net.inFlight.length]? =
      some relayed := by
    rw [hrelayed]
    exact List.getElem?_concat_length
  have horiginLast : ((net.deliver platform id packet).deliver platform nextId relayed).nodes
      packet.dest = (net.deliver platform id packet).nodes packet.dest := by
    rw [hanswer]
    exact Function.update_of_ne hexchanging.distinct.symm _ _
  have hdestLast : ((net.deliver platform id packet).deliver platform nextId relayed).nodes
      relayed.dest =
        { (net.deliver platform id packet).nodes relayed.dest with
          agent :=
            { ((net.deliver platform id packet).nodes relayed.dest).agent with
              obsStrage := destStrage }
          io := destIo } := by
    rw [hanswer]
    exact Function.update_self _ _ _
  refine ⟨(net.deliver platform id packet).deliver platform nextId relayed, ?_, ?_, ?_⟩
  · simp only [Runs.execute, step, hfirst, hsecond, Option.map_some, Option.bind_some]
  · rw [hanswer, hrelayed]
    simp
  · refine ⟨hexchanging.distinct, ?_, ?_, ?_, ?_, ?_, answer, reply, ?_, hback, hreply,
      hreplyCirculates⟩
    · rw [horiginLast, horiginNode]
      exact hexchanging.originSelf
    · rw [hdestLast, hdestNode]
      exact hexchanging.destSelf
    · rw [horiginLast, horiginNode]
      exact hreceiver
    · rw [hdestLast]
      exact hdestReceiver
    · rw [horiginLast, horiginNode]
      exact hexchanging.knows
    · rw [hanswer]
      exact List.getLast?_concat

/-- One message that arrives at an origin without its observer is enough: the two
nodes go on sending signaling messages to each other for any number of rounds,
whatever other ids their new observers draw. -/
theorem exchange_without_end {obsId : Uuid} {origin dest : Endpoint}
    {net : SignalingNetwork} (hexchanging : Exchanging platform obsId origin dest net)
    (draw : ℕ → Uuid) (hdraw : ∀ index, draw index ≠ obsId) (rounds : ℕ) :
    ∃ events next, events.length = 2 * rounds ∧
      (∀ event ∈ events, ∃ position index, event = Event.deliver position (draw index)) ∧
      Runs.execute (step platform) net events = some next ∧
      next.inFlight.length = net.inFlight.length + 2 * rounds := by
  induction rounds generalizing net draw with
  | zero => exact ⟨[], net, rfl, fun event hevent => absurd hevent (by simp), rfl, rfl⟩
  | succ rounds ih =>
      obtain ⟨middle, hround, hlength, hmiddle⟩ :=
        exchanging_deliver hexchanging (hdraw 0) (hdraw 1)
      obtain ⟨events, next, hcount, hdeliver, hrun, hrest⟩ :=
        ih hmiddle (fun index => draw (index + 2)) fun index => hdraw (index + 2)
      refine ⟨[.deliver (net.inFlight.length - 1) (draw 0),
        .deliver net.inFlight.length (draw 1)] ++ events, next, ?_, ?_, ?_, ?_⟩
      · rw [List.length_append, hcount]
        change 2 + 2 * rounds = 2 * (rounds + 1)
        omega
      · intro event hevent
        rcases List.mem_append.mp hevent with hfirst | hlater
        · rcases List.mem_pair.mp hfirst with rfl | rfl
          · exact ⟨_, 0, rfl⟩
          · exact ⟨_, 1, rfl⟩
        · obtain ⟨position, index, rfl⟩ := hdeliver event hlater
          exact ⟨position, index + 2, rfl⟩
      · exact Runs.execute_append_eq_some.mpr ⟨middle, hround, hrun⟩
      · rw [hrest, hlength]
        omega

/-! ## A late response -/

/-- `10.0.0.1` and `10.0.0.2` know each other; the other nodes know nobody. -/
def oneAndTwo (ep : Endpoint) : SignalingNode :=
  if ep = nodeAt 1 then knowing (hostPlatform []) ep [nodeAt 2]
  else if ep = nodeAt 2 then knowing (hostPlatform []) ep [nodeAt 1]
  else knowing (hostPlatform []) ep []

/-- The response of `10.0.0.2` to a request of `10.0.0.1`. -/
def lateResponse : Message :=
  let obs := SignalingRequest.make 1 0 (nodeAt 2) "messenger" .null
  let iceMsg := obs.requestMessage (hostPlatform []) (nodeAt 1)
  Message.ofPart "ice_agent" (SignalingServer.responseMessage iceMsg).encode

/-- The response arrives when `10.0.0.1` no longer stores the request: it is
forwarded to `10.0.0.2`, which answers it. -/
theorem not_noEcho_late :
    ¬ Runs.Throughout (step (hostPlatform []))
      (fun net => ∀ packet ∈ net.inFlight, NoEcho (hostPlatform []) packet)
      (start oneAndTwo)
      [.send (nodeAt 2) (nodeAt 1) lateResponse, .deliver 0 2, .deliver 1 3] := by
  intro hthroughout
  have htrace : ((Runs.execute (step (hostPlatform [])) (start oneAndTwo)
      [.send (nodeAt 2) (nodeAt 1) lateResponse, .deliver 0 2, .deliver 1 3]).bind
        fun net => net.inFlight[2]?.bind fun packet => packet.trace.getLast?.bind
          fun hop => (hop.received.getSubProtocol (hostPlatform [])).toOption) =
      some SignalingSubProtocol.response.code := by
    decide +kernel
  obtain ⟨net, hnet, htrace⟩ := Option.bind_eq_some_iff.mp htrace
  obtain ⟨packet, hpacket, htrace⟩ := Option.bind_eq_some_iff.mp htrace
  obtain ⟨hop, hhop, hsubProtocol⟩ := Option.bind_eq_some_iff.mp htrace
  have hnoEcho := Runs.last_of_throughout hthroughout hnet packet
    (List.mem_of_getElem? hpacket)
  exact hnoEcho hop (List.mem_of_getLast? hhop)
    (Fallible.toOption_eq_some_iff.mp hsubProtocol)

end SsP2p.Ice.SignalingNetwork

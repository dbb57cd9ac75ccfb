import Mathlib.Data.Finset.Card
import Mathlib.Data.List.Chain
import SsP2p.Core.EndpointText
import SsP2p.Ice.IceLoop

/-!
# Chains of relays

Every node that relays a request adds itself and its recipients to `relay_eps`, and
chooses recipients that are not there.  A node that knows the destination delivers the
request without looking at the list, but the destination relays nothing.  So no chain of
relays comes back to a node.
-/

namespace SsP2p.Ice

open Kademlia

namespace SignalingServer

variable {platform : Platform} {selfEp : Endpoint} {table : KRoutingTable}

/-! ## The relay endpoints of a copy -/

def readRelayEntry (platform : Platform) (item : Json) : Except Fault Endpoint := do
  strToEndpoint platform (← item.getString)

theorem readRelayEntry_relayEntry (hreads : platform.ReadsBack) {ep : Endpoint}
    (hv4 : ep.IsV4) : readRelayEntry platform (relayEntry platform ep) = .ok ep :=
  strToEndpoint_endpointToStr hreads hv4

/-- The entries of `relay_eps` are read one by one. -/
theorem getRelayEndpoints_of_items {iceMsg : IceMessage} {items : List Json}
    (hitems : iceMsg.get "relay_eps" = .array items ∨
      iceMsg.get "relay_eps" = .null ∧ items = []) :
    iceMsg.getRelayEndpoints platform = items.mapM (readRelayEntry platform) := by
  rw [IceMessage.getRelayEndpoints]
  rcases hitems with harray | ⟨hnull, rfl⟩
  · rw [harray]
    rfl
  · rw [hnull]
    rfl

theorem mapM_relayEntry (hreads : platform.ReadsBack) {eps : List Endpoint}
    (hv4 : ∀ ep ∈ eps, ep.IsV4) :
    (eps.map (relayEntry platform)).mapM (readRelayEntry platform) = .ok eps :=
  Fallible.mapM_map_eq_ok_iff.mpr fun ep hep => readRelayEntry_relayEntry hreads (hv4 ep hep)

/-- A copy carries the endpoints of the message that it is a copy of, and behind them the
ones that were added. -/
theorem getRelayEndpoints_of_isCopy (hreads : platform.ReadsBack)
    {iceMsg copy : IceMessage} {eps : List Endpoint} (hv4 : ∀ ep ∈ eps, ep.IsV4)
    (hcopy : IsCopy iceMsg copy (eps.map (relayEntry platform))) :
    copy.getRelayEndpoints platform =
      (iceMsg.getRelayEndpoints platform).map fun received => received ++ eps := by
  obtain ⟨items, hitems, hadded⟩ := hcopy.relayEps
  rw [getRelayEndpoints_of_items hitems, getRelayEndpoints_of_items (Or.inl hadded),
    List.mapM_append, mapM_relayEntry hreads hv4]
  cases items.mapM (readRelayEntry platform) with
  | error fault => rfl
  | ok received => rfl

/-! ## What is handed on -/

/-- A node that is not the destination delivers a copy to it, or hands copies to nodes
that are not among the relay endpoints read from its own copy. -/
theorem handover_of_incomeMessage {strage : IceObserverStrage} {io : IoContext} {id : Uuid}
    {iceMsg : IceMessage} {destEp : Endpoint} {result : IceObserverStrage × IoContext}
    (hdest : iceMsg.getDestEndpoint platform = .ok destEp) (hself : destEp ≠ selfEp)
    (hincome : incomeMessage platform selfEp table strage io id iceMsg = .ok result) :
    (table.isExistEndpoint platform destEp = true ∧ ∃ copy,
      IsCopy iceMsg copy ([selfEp].map (relayEntry platform)) ∧
        result.2 = sendAll io copy [destEp]) ∨
    (table.isExistEndpoint platform destEp = false ∧ ∃ relayMsg relayEps recipients copy,
      IsCopy iceMsg relayMsg ([selfEp].map (relayEntry platform)) ∧
        relayMsg.getRelayEndpoints platform = .ok relayEps ∧
        (∀ ep ∈ recipients, ep ∈ table.collectEndpoint platform destEp signalingFanOut
          relayEps) ∧
        IsCopy iceMsg copy ((selfEp :: recipients).map (relayEntry platform)) ∧
        result.2 = sendAll io copy recipients) := by
  rw [incomeMessage, hdest, Fallible.ok_bind, if_neg hself, Fallible.bind_eq_ok] at hincome
  obtain ⟨relayMsg, hrelay, hincome⟩ := hincome
  have hcopy := isCopy_relayMessage hrelay
  by_cases hexist : table.isExistEndpoint platform destEp = true
  · rw [if_pos hexist] at hincome
    obtain rfl := Fallible.pure_eq_ok.mp hincome
    exact Or.inl ⟨hexist, relayMsg, hcopy, rfl⟩
  · rw [if_neg hexist] at hincome
    simp only [forward, Fallible.bind_eq_ok] at hincome
    obtain ⟨relayEps, hrelayEps, ttl, httl, hincome⟩ := hincome
    refine Or.inr ⟨Bool.not_eq_true _ ▸ hexist, relayMsg, relayEps, ?_⟩
    by_cases hexpired : ttl ≤ 0
    · rw [if_pos hexpired] at hincome
      obtain rfl := Fallible.pure_eq_ok.mp hincome
      exact ⟨[], relayMsg, hcopy, hrelayEps, fun _ hep => absurd hep List.not_mem_nil, hcopy, rfl⟩
    · rw [if_neg hexpired] at hincome
      obtain ⟨copy, hadd, hcopyAll⟩ := exists_addRelayEndpoints platform hcopy
        (table.collectEndpoint platform destEp signalingFanOut relayEps)
      rw [hadd] at hincome
      obtain rfl := Fallible.pure_eq_ok.mp hincome
      exact ⟨_, copy, hcopy, hrelayEps, fun ep hep => hep, hcopyAll, rfl⟩

end SignalingServer

/-! ## Chains -/

/-- A node of the network, by the endpoint that its peers know it by and it has as its own,
and a message that reaches it. -/
structure Visit where
  ep : Endpoint
  msg : Message

section Network

variable (platform : Platform)

/-- A routing table in a network of IPv4 nodes; nodes are only made from endpoints. -/
structure NetworkTable (table : KRoutingTable) : Prop where
  ofEndpoints : table.OfEndpoints platform
  isV4 : ∀ ep, table.Knows ep → ep.IsV4

/-- The signaling server of a node that is not the destination hands the message on, and
`next` gets one of the copies. -/
def RelaysTo (visit next : Visit) : Prop :=
  ∃ (table : KRoutingTable) (strage : IceObserverStrage) (io : IoContext) (id : Uuid)
    (iceMsg : IceMessage) (result : IceObserverStrage × IoContext)
    (forwards : List Outgoing),
    NetworkTable platform table ∧ IceMessage.ofMessage visit.msg = some iceMsg ∧
      iceMsg.getDestEndpoint platform ≠ .ok visit.ep ∧
      SignalingServer.incomeMessage platform visit.ep table strage io id iceMsg =
        .ok result ∧
      result.2.sent = io.sent ++ forwards ∧ ⟨next.ep, next.msg⟩ ∈ forwards

structure RelayChain (network : Finset Endpoint) (chain : List Visit) : Prop where
  relays : chain.IsChain (RelaysTo platform)
  nodes : ∀ visit ∈ chain, visit.ep ∈ network

/-- The message was relayed by these nodes: they are among its relay endpoints, and none of
them is its destination. -/
def Visited (msg : Message) (visited : List Endpoint) : Prop :=
  ∀ iceMsg, IceMessage.ofMessage msg = some iceMsg → ∀ ep ∈ visited,
    iceMsg.getDestEndpoint platform ≠ .ok ep ∧
      ∃ items, iceMsg.get "relay_eps" = .array items ∧
        SignalingServer.relayEntry platform ep ∈ items

end Network

variable {platform : Platform}

/-- An agent reads what `async_ice_send` encodes. -/
theorem ofMessage_ofPart (iceMsg : IceMessage) :
    IceMessage.ofMessage (.ofPart "ice_agent" iceMsg.encode) = some iceMsg := by
  rw [IceMessage.ofMessage, Message.getParam_ofPart]
  rfl

/-- What a node is told by its application makes a table of the network. -/
theorem networkTable_autoUpdateBatch (platform : Platform) (selfId : NodeId)
    (eps : List Endpoint) (hv4 : ∀ ep ∈ eps, ep.IsV4) :
    NetworkTable platform ((KRoutingTable.empty selfId).autoUpdateBatch platform eps) where
  ofEndpoints :=
    KRoutingTable.ofEndpoints_autoUpdateBatch _ (KRoutingTable.ofEndpoints_empty _ _) _
  isV4 ep hknows := hv4 ep ((KRoutingTable.knows_autoUpdateBatch hknows).resolve_left
    (KRoutingTable.not_knows_empty _ ep))

/-- A node that knows the destination of a message hands it over. -/
theorem relaysTo_of_isExist {table : KRoutingTable} (htable : NetworkTable platform table)
    {visit : Visit} {iceMsg relayMsg : IceMessage} {destEp : Endpoint}
    (hmsg : IceMessage.ofMessage visit.msg = some iceMsg)
    (hdest : iceMsg.getDestEndpoint platform = .ok destEp) (hself : destEp ≠ visit.ep)
    (hrelay : SignalingServer.relayMessage platform visit.ep iceMsg = .ok relayMsg)
    (hexist : table.isExistEndpoint platform destEp = true) :
    RelaysTo platform visit ⟨destEp, .ofPart "ice_agent" relayMsg.encode⟩ := by
  have hincome := SignalingServer.incomeMessage_of_isExist hdest hself hrelay hexist
    .empty (.start 0) 0
  refine ⟨table, .empty, .start 0, 0, iceMsg, _, [⟨destEp, .ofPart "ice_agent" relayMsg.encode⟩],
    htable, hmsg, ?_, hincome, ?_, List.mem_singleton_self _⟩
  · intro hsame
    rw [hdest] at hsame
    exact hself (Except.ok.inj hsame)
  · rw [SignalingServer.sendAll_eq]
    rfl

theorem visited_of_isCopy {iceMsg copy : IceMessage} {msg : Message} {ep : Endpoint}
    {added : List Endpoint} {visited : List Endpoint}
    (hmsg : IceMessage.ofMessage msg = some iceMsg) (hvisited : Visited platform msg visited)
    (hdest : iceMsg.getDestEndpoint platform ≠ .ok ep)
    (hcopy : SignalingServer.IsCopy iceMsg copy
      ((ep :: added).map (SignalingServer.relayEntry platform))) :
    Visited platform (.ofPart "ice_agent" copy.encode) (ep :: visited) := by
  intro other hother visitedEp hmem
  rw [ofMessage_ofPart] at hother
  obtain rfl := Option.some.inj hother
  have hsameDest : copy.getDestEndpoint platform = iceMsg.getDestEndpoint platform := by
    simp only [IceMessage.getDestEndpoint, IceMessage.getEndpoint,
      hcopy.rest "dest_ip" (by decide) (by decide),
      hcopy.rest "dest_port" (by decide) (by decide)]
  obtain ⟨items, hitems, hadded⟩ := hcopy.relayEps
  rw [hsameDest]
  cases List.mem_cons.mp hmem with
  | inl heq =>
      rw [heq]
      exact ⟨hdest, _, hadded, List.mem_append_right _ (List.mem_map_of_mem List.mem_cons_self)⟩
  | inr hold =>
      obtain ⟨hnotDest, oldItems, hold, hentry⟩ := hvisited iceMsg hmsg visitedEp hold
      refine ⟨hnotDest, _, hadded, List.mem_append_left _ ?_⟩
      rcases hitems with harray | ⟨hnull, -⟩
      · rw [harray] at hold
        exact Json.array.inj hold ▸ hentry
      · rw [hnull] at hold
        cases hold

/-- What the server sends is what it hands on. -/
theorem forwards_of_sendAll {io nextIo : IoContext} {iceMsg : IceMessage}
    {eps : List Endpoint} {forwards : List Outgoing}
    (hnext : nextIo = SignalingServer.sendAll io iceMsg eps)
    (hsent : nextIo.sent = io.sent ++ forwards) :
    forwards = eps.map fun ep => ⟨ep, .ofPart "ice_agent" iceMsg.encode⟩ := by
  rw [hnext, SignalingServer.sendAll_eq] at hsent
  exact (List.append_cancel_left hsent).symm

theorem mem_forwards_of_sendAll {io nextIo : IoContext} {iceMsg : IceMessage}
    {eps : List Endpoint} {forwards : List Outgoing} {ep : Endpoint} {msg : Message}
    (hnext : nextIo = SignalingServer.sendAll io iceMsg eps)
    (hsent : nextIo.sent = io.sent ++ forwards) (hmem : ⟨ep, msg⟩ ∈ forwards) :
    ep ∈ eps ∧ msg = .ofPart "ice_agent" iceMsg.encode := by
  rw [forwards_of_sendAll hnext hsent] at hmem
  obtain ⟨recipient, hrecipient, heq⟩ := List.mem_map.mp hmem
  obtain ⟨rfl, rfl⟩ := Outgoing.mk.inj heq
  exact ⟨hrecipient, rfl⟩

/-- Nodes that are asked to relay are none of the relay endpoints. -/
theorem notMem_of_collected (hreads : platform.ReadsBack) {table : KRoutingTable}
    (htable : NetworkTable platform table) {iceMsg relayMsg : IceMessage}
    {msg : Message} {visited relayEps : List Endpoint} {selfEp destEp ep : Endpoint}
    (hmsg : IceMessage.ofMessage msg = some iceMsg) (hvisited : Visited platform msg visited)
    (hdest : iceMsg.getDestEndpoint platform ≠ .ok selfEp)
    (hv4 : ∀ other ∈ selfEp :: visited, other.IsV4)
    (hcopy : SignalingServer.IsCopy iceMsg relayMsg
      ([selfEp].map (SignalingServer.relayEntry platform)))
    (hrelayEps : relayMsg.getRelayEndpoints platform = .ok relayEps)
    (hep : ep ∈ table.collectEndpoint platform destEp signalingFanOut relayEps) :
    ep ∉ selfEp :: visited := by
  intro hmem
  apply (KRoutingTable.mem_collectEndpoint hep).2 htable.ofEndpoints
  have hrelayed := visited_of_isCopy hmsg hvisited hdest hcopy
  obtain ⟨-, items, hitems, hentry⟩ := hrelayed relayMsg (ofMessage_ofPart relayMsg) ep hmem
  rw [SignalingServer.getRelayEndpoints_of_items (Or.inl hitems)] at hrelayEps
  exact Fallible.mem_of_mapM_eq_ok hrelayEps hentry
    (SignalingServer.readRelayEntry_relayEntry hreads (hv4 ep hmem))

/-- One relay: the recipient was not visited, and finds the relaying node among the visited
ones. -/
theorem visited_of_relaysTo (hreads : platform.ReadsBack) {visit next : Visit}
    {visited : List Endpoint} (hvisited : Visited platform visit.msg visited)
    (hv4 : ∀ ep ∈ visit.ep :: visited, ep.IsV4) (hrelays : RelaysTo platform visit next) :
    next.ep ∉ visit.ep :: visited ∧ Visited platform next.msg (visit.ep :: visited) := by
  obtain ⟨table, strage, io, id, iceMsg, result, forwards, htable, hmsg, hnotDest, hincome,
    hsent, hmem⟩ := hrelays
  have hreadsDest := hincome
  rw [SignalingServer.incomeMessage, Fallible.bind_eq_ok] at hreadsDest
  obtain ⟨destEp, hdest, -⟩ := hreadsDest
  have hself : destEp ≠ visit.ep := fun heq => hnotDest (heq ▸ hdest)
  rcases SignalingServer.handover_of_incomeMessage hdest hself hincome with
    ⟨-, copy, hcopy, hnext⟩ | ⟨-, relayMsg, relayEps, recipients, copy, hrelayCopy,
      hrelayEps, hcollected, hcopy, hnext⟩
  · obtain ⟨hrecipient, hnextMsg⟩ := mem_forwards_of_sendAll hnext hsent hmem
    rw [hnextMsg, List.mem_singleton.mp hrecipient]
    refine ⟨?_, visited_of_isCopy hmsg hvisited hnotDest hcopy⟩
    rw [List.mem_cons, not_or]
    exact ⟨hself, fun hold => (hvisited iceMsg hmsg destEp hold).1 hdest⟩
  · obtain ⟨hrecipient, hnextMsg⟩ := mem_forwards_of_sendAll hnext hsent hmem
    rw [hnextMsg]
    exact ⟨notMem_of_collected hreads htable hmsg hvisited hnotDest hv4 hrelayCopy hrelayEps
      (hcollected next.ep hrecipient), visited_of_isCopy hmsg hvisited hnotDest hcopy⟩

/-- A chain visits no node that was visited before it, and none twice. -/
theorem nodup_of_isChain (hreads : platform.ReadsBack) {chain : List Visit} :
    ∀ {visit : Visit} {visited : List Endpoint},
      (visit :: chain).IsChain (RelaysTo platform) → Visited platform visit.msg visited →
      (∀ ep ∈ visited, ep.IsV4) → (∀ other ∈ visit :: chain, other.ep.IsV4) →
      visit.ep ∉ visited → visited.Nodup →
      (((visit :: chain).map Visit.ep).reverse ++ visited).Nodup := by
  induction chain with
  | nil =>
      intro visit visited hchain hvisited hvisitedV4 hv4 hfresh hnodup
      exact List.nodup_cons.mpr ⟨hfresh, hnodup⟩
  | cons next chain ih =>
      intro visit visited hchain hvisited hvisitedV4 hv4 hfresh hnodup
      obtain ⟨hrelays, hrest⟩ := List.isChain_cons_cons.mp hchain
      rw [List.forall_mem_cons] at hv4
      have hallV4 : ∀ ep ∈ visit.ep :: visited, ep.IsV4 :=
        List.forall_mem_cons.mpr ⟨hv4.1, hvisitedV4⟩
      obtain ⟨hnextFresh, hnextVisited⟩ := visited_of_relaysTo hreads hvisited hallV4 hrelays
      have htail := ih hrest hnextVisited hallV4 hv4.2 hnextFresh
        (List.nodup_cons.mpr ⟨hfresh, hnodup⟩)
      rw [List.map_cons, List.reverse_cons, List.append_assoc]
      exact htail

namespace RelayChain

variable {network : Finset Endpoint} {chain : List Visit}

theorem nodup (hreads : platform.ReadsBack) (hv4 : ∀ ep ∈ network, ep.IsV4)
    (hchain : RelayChain platform network chain) : (chain.map Visit.ep).Nodup := by
  cases chain with
  | nil => exact List.nodup_nil
  | cons visit chain =>
      have hnone : Visited platform visit.msg [] := fun _ _ _ hmem =>
        absurd hmem List.not_mem_nil
      have hnodup := nodup_of_isChain hreads hchain.relays hnone
        (fun _ hmem => absurd hmem List.not_mem_nil)
        (fun other hother => hv4 other.ep (hchain.nodes other hother)) List.not_mem_nil
        List.nodup_nil
      rw [List.append_nil] at hnodup
      exact List.nodup_reverse.mp hnodup

theorem length_le (hreads : platform.ReadsBack) (hv4 : ∀ ep ∈ network, ep.IsV4)
    (hchain : RelayChain platform network chain) : chain.length ≤ network.card := by
  have hsubset : (chain.map Visit.ep).toFinset ⊆ network := by
    intro ep hep
    obtain ⟨visit, hvisit, rfl⟩ := List.mem_map.mp (List.mem_toFinset.mp hep)
    exact hchain.nodes visit hvisit
  calc chain.length
      = (chain.map Visit.ep).length := (List.length_map _).symm
    _ = (chain.map Visit.ep).toFinset.card :=
        (List.toFinset_card_of_nodup (nodup hreads hv4 hchain)).symm
    _ ≤ network.card := Finset.card_le_card hsubset

/-- The first visits of an endless sequence of relays. -/
theorem take {visits : ℕ → Visit} (hnodes : ∀ n, (visits n).ep ∈ network)
    (hrelays : ∀ n, RelaysTo platform (visits n) (visits (n + 1))) (count : ℕ) :
    RelayChain platform network ((List.range count).map visits) := by
  constructor
  · rw [List.isChain_map, List.isChain_iff_getElem]
    intro position hposition
    simp only [List.getElem_range]
    exact hrelays position
  · intro visit hvisit
    obtain ⟨n, -, rfl⟩ := List.mem_map.mp hvisit
    exact hnodes n

end RelayChain

/-- What holds of the relays of a request in a network. -/
structure RelayLaws (platform : Platform) (network : Finset Endpoint) : Prop where
  nodup : ∀ chain, RelayChain platform network chain → (chain.map Visit.ep).Nodup
  length_le : ∀ chain, RelayChain platform network chain → chain.length ≤ network.card
  finite : ∀ visits : ℕ → Visit, (∀ n, (visits n).ep ∈ network) →
    ∃ n, ¬ RelaysTo platform (visits n) (visits (n + 1))
  collected : ∀ selfEp ∈ network, ∀ table, NetworkTable platform table →
    ∀ strage io id iceMsg destEp result, iceMsg.getDestEndpoint platform = .ok destEp →
      destEp ≠ selfEp → table.isExistEndpoint platform destEp = false →
      SignalingServer.incomeMessage platform selfEp table strage io id iceMsg =
        .ok result →
      ∃ received recipients copy, iceMsg.getRelayEndpoints platform = .ok received ∧
        result.2 = SignalingServer.sendAll io copy recipients ∧
        (∀ ep ∈ recipients, ep ∉ received ∧ ep ≠ selfEp) ∧
        copy.getRelayEndpoints platform = .ok (received ++ selfEp :: recipients)

/-- A relay chain never comes back to a node. -/
theorem relayLaws {platform : Platform} (hreads : platform.ReadsBack)
    {network : Finset Endpoint} (hv4 : ∀ ep ∈ network, ep.IsV4) :
    RelayLaws platform network where
  nodup _ hchain := hchain.nodup hreads hv4
  length_le _ hchain := hchain.length_le hreads hv4
  finite visits hnodes := by
    by_contra hendless
    rw [not_exists] at hendless
    have hchain := RelayChain.take hnodes (fun n => not_not.mp (hendless n))
      (network.card + 1)
    have hlength := hchain.length_le hreads hv4
    rw [List.length_map, List.length_range] at hlength
    exact Nat.not_succ_le_self _ hlength
  collected selfEp hselfEp table htable strage io id iceMsg destEp result hdest hself hexist
      hincome := by
    rcases SignalingServer.handover_of_incomeMessage hdest hself hincome with
      ⟨hknown, -⟩ | ⟨-, relayMsg, relayEps, recipients, copy, hrelayCopy, hrelayEps,
        hcollected, hcopy, hnext⟩
    · rw [hexist] at hknown
      cases hknown
    · have hselfV4 : ∀ ep ∈ [selfEp], ep.IsV4 := by
        intro ep hep
        rw [List.mem_singleton.mp hep]
        exact hv4 selfEp hselfEp
      have hrecipients : ∀ ep ∈ recipients, ep.IsV4 ∧ ep ∉ relayEps := by
        intro ep hep
        obtain ⟨hknows, hnotMem⟩ := KRoutingTable.mem_collectEndpoint (hcollected ep hep)
        exact ⟨htable.isV4 ep hknows, hnotMem htable.ofEndpoints⟩
      rw [SignalingServer.getRelayEndpoints_of_isCopy hreads hselfV4 hrelayCopy] at hrelayEps
      obtain ⟨received, hreceived, hrelayEps⟩ := Fallible.map_eq_ok.mp hrelayEps
      refine ⟨received, recipients, copy, hreceived, hnext, ?_, ?_⟩
      · intro ep hep
        have hnotMem := (hrecipients ep hep).2
        rw [← hrelayEps, List.mem_append, List.mem_singleton, not_or] at hnotMem
        exact hnotMem
      · have hallV4 : ∀ ep ∈ selfEp :: recipients, ep.IsV4 :=
          List.forall_mem_cons.mpr ⟨hv4 selfEp hselfEp, fun ep hep => (hrecipients ep hep).1⟩
        rw [SignalingServer.getRelayEndpoints_of_isCopy hreads hallV4 hcopy, hreceived]
        rfl

theorem relayLaws_threeNodes :
    RelayLaws (hostPlatform []) {nodeAt 1, nodeAt 2, nodeAt 3} := by
  apply relayLaws (readsBack_hostPlatform [])
  intro ep hep
  simp only [Finset.mem_insert, Finset.mem_singleton] at hep
  rcases hep with rfl | rfl | rfl <;> exact ⟨_, rfl⟩

def requestToThird : IceMessage :=
  (SignalingRequest.make 7 0 (nodeAt 3) "chat" (.string "hello")).requestMessage
    (hostPlatform []) (nodeAt 1)

/-- `10.0.0.2:8100` relays it when it was told of the destination. -/
example : ∃ next, next.ep = nodeAt 3 ∧
    RelaysTo (hostPlatform []) ⟨nodeAt 2, .ofPart "ice_agent" requestToThird.encode⟩ next := by
  have hv4 : ∀ ep ∈ [nodeAt 3], ep.IsV4 := by
    intro ep hep
    exact List.mem_singleton.mp hep ▸ ⟨_, rfl⟩
  have htable := networkTable_autoUpdateBatch (hostPlatform [])
    (calcNodeId (hostPlatform []) (nodeAt 2)) [nodeAt 3] hv4
  obtain ⟨relayMsg, hrelay⟩ : ∃ relayMsg, SignalingServer.relayMessage (hostPlatform [])
      (nodeAt 2) requestToThird = .ok relayMsg := ⟨_, rfl⟩
  exact ⟨_, rfl, relaysTo_of_isExist htable (ofMessage_ofPart _) rfl (by decide) hrelay
    (by decide +kernel)⟩

end SsP2p.Ice

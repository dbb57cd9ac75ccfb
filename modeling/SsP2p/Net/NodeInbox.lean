import SsP2p.Net.NodeGrowth
import SsP2p.Net.PoolRefresh

/-!
# What the application of a node gets

Whatever the message hub hands to its handler, and whatever a peer returns, has arrived at
the node.  A peer finds its messages by the hash of its endpoint.
-/

namespace SsP2p.Net

open Ice Kademlia

namespace NodeLoop

variable {platform : Platform}

variable (platform) in
/-- The message has arrived under an endpoint with this peer id. -/
def HasArrived (arrivals : List Arrival) (pid : PeerId) (msg : Message) : Prop :=
  ∃ arrival ∈ arrivals, arrival.msg = msg ∧ calcPeerId platform arrival.ep = pid

/-- The invariant: what is stored, what the peers have got, and what was handed over. -/
structure Inbox (node : NodeLoop platform) : Prop where
  pool : ∀ pid buffer, node.msgPool.pool.find pid = some buffer →
    ∀ received ∈ buffer.msgQueue, HasArrived platform node.dht.arrivals pid received.msg
  peers : ∀ peer ∈ node.peers, ∀ received ∈ peer.queue,
    HasArrived platform node.dht.arrivals (calcPeerId platform peer.ep) received.msg
  handled : ∀ msg ∈ node.msgPool.handled,
    HasArrived platform node.dht.arrivals (calcPeerId platform msg.srcEndpoint) msg.body
  returned : ∀ msg ∈ node.returned,
    HasArrived platform node.dht.arrivals (calcPeerId platform msg.srcEndpoint) msg.body

theorem HasArrived.mono {arrivals more : List Arrival} (hmore : arrivals ⊆ more)
    {pid : PeerId} {msg : Message} (harrived : HasArrived platform arrivals pid msg) :
    HasArrived platform more pid msg := by
  obtain ⟨arrival, harrival, hmsg⟩ := harrived
  exact ⟨arrival, hmore harrival, hmsg⟩

theorem inbox_make (ep : Endpoint) (now : ℕ) : (make platform ep now).Inbox where
  pool pid buffer hbuffer := by cases hbuffer
  peers := nofun
  handled := nofun
  returned := nofun

/-- The layers change nothing that the application gets. -/
theorem Inbox.of_eq {node next : NodeLoop platform} (hinbox : node.Inbox)
    (harrivals : node.dht.arrivals ⊆ next.dht.arrivals)
    (hpool : next.msgPool.pool = node.msgPool.pool)
    (hhandled : next.msgPool.handled = node.msgPool.handled) (hpeers : next.peers = node.peers)
    (hreturned : next.returned = node.returned) : next.Inbox where
  pool pid buffer hbuffer received hreceived := by
    rw [hpool] at hbuffer
    exact (hinbox.pool pid buffer hbuffer received hreceived).mono harrivals
  peers peer hpeer received hreceived := by
    rw [hpeers] at hpeer
    exact (hinbox.peers peer hpeer received hreceived).mono harrivals
  handled msg hmsg := by
    rw [hhandled] at hmsg
    exact (hinbox.handled msg hmsg).mono harrivals
  returned msg hmsg := by
    rw [hreturned] at hmsg
    exact (hinbox.returned msg hmsg).mono harrivals

/-! ## The two layers -/

theorem Inbox.kademlia {node next : NodeLoop platform} {event : MaintainedDht.Event}
    {drawn : List Uuid} (hinbox : node.Inbox) (hstep : node.kademlia event drawn = some next) :
    next.Inbox := by
  have harrivals := (extends_kademlia hstep).dht.arrivals
  obtain ⟨dht, ice, rest, -, -, rfl⟩ := kademlia_eq_some hstep
  refine hinbox.of_eq ?_ rfl rfl rfl rfl
  rw [harrivals]
  exact List.subset_append_left _ _

theorem Inbox.iceAgent {node next : NodeLoop platform} {event : IceLoop.Event}
    (hinbox : node.Inbox) (hstep : node.iceAgent event = some next) : next.Inbox := by
  obtain ⟨ice, -, rfl⟩ := iceAgent_eq_some hstep
  exact hinbox.of_eq (List.Subset.refl _) rfl rfl rfl rfl

/-! ## The pool and the peers -/

theorem mem_msgQueue_expire {now : ℕ} {buffer : PeerMessageBuffer}
    {received : ReceivedMessage} (hreceived : received ∈ (buffer.expire now).msgQueue) :
    received ∈ buffer.msgQueue :=
  (List.mem_append.mp hreceived).elim List.mem_of_mem_take List.mem_of_mem_drop

theorem Inbox.refreshPool {node : NodeLoop platform} (hinbox : node.Inbox) :
    ({ node with msgPool := node.msgPool.refreshTick node.dht.now } :
      NodeLoop platform).Inbox := by
  refine { hinbox with pool := fun pid buffer hbuffer received hreceived => ?_ }
  rw [MessagePool.find_refreshTick] at hbuffer
  obtain ⟨old, hold, rfl⟩ := Option.map_eq_some_iff.mp hbuffer
  exact hinbox.pool pid old hold received (mem_msgQueue_expire hreceived)

/-- What a new peer may receive is in the pool. -/
theorem Inbox.getPeer {node : NodeLoop platform} (hinbox : node.Inbox) (ep : Endpoint) :
    ({ node with peers := node.peers ++ [.ofPool node.msgPool ep] } :
      NodeLoop platform).Inbox := by
  refine { hinbox with peers := fun peer hpeer received hreceived => ?_ }
  cases List.mem_append.mp hpeer with
  | inl hold => exact hinbox.peers peer hold received hreceived
  | inr hnew =>
      obtain rfl := List.mem_singleton.mp hnew
      rw [Peer.queue, Peer.ofPool, MessagePool.getPeerMessageBuffer] at hreceived
      cases hfind : node.msgPool.pool.find (calcPeerId platform ep) with
      | none =>
          rw [hfind] at hreceived
          cases hreceived
      | some buffer =>
          rw [hfind] at hreceived
          exact hinbox.pool _ buffer hfind received hreceived

/-- A peer returns the front of its queue. -/
theorem Inbox.receive {node next : NodeLoop platform} {position : ℕ} {peer : Peer}
    {timeout : ℤ} (hinbox : node.Inbox) (hpeer : peer ∈ node.peers)
    (hreceive : node.receive position peer timeout = some next) : next.Inbox := by
  cases hqueue : peer.queue with
  | nil =>
      have hnone := (Peer.receive_of_nil hqueue timeout).1
      rw [NodeLoop.receive] at hreceive
      split at hreceive
      next received msg after hresult =>
        rw [hresult] at hnone
        cases hnone
      next => cases hreceive
  | cons front rest =>
      obtain ⟨hresult, hrest⟩ := Peer.receive_of_cons hqueue timeout
      have hfront := hinbox.peers peer hpeer
      rw [hqueue, List.forall_mem_cons] at hfront
      have hafter : peer.receive timeout =
          (.returned front (.make front peer.ep), (peer.receive timeout).2) :=
        Prod.ext hresult rfl
      rw [NodeLoop.receive, hafter] at hreceive
      obtain rfl := Option.some.inj hreceive
      refine { hinbox with
        peers := fun other hother received hreceived => ?_
        returned := fun msg hmsg => ?_ }
      · rcases List.mem_or_eq_of_mem_set hother with hold | rfl
        · exact hinbox.peers other hold received hreceived
        · rw [hrest] at hreceived
          rw [Peer.ep_receive]
          exact hfront.2 received hreceived
      · cases List.mem_append.mp hmsg with
        | inl hold => exact hinbox.returned msg hold
        | inr hnew =>
            rw [List.mem_singleton.mp hnew]
            exact hfront.1

/-! ## Events -/

theorem Inbox.serve {node next : NodeLoop platform} {event : LoopEvent} (hinbox : node.Inbox)
    (hserve : node.serve event = some next) : next.Inbox := by
  cases event with
  | expireDht position => exact hinbox.kademlia hserve
  | runDht position id drawn => exact hinbox.kademlia hserve
  | expireMaintainer position => exact hinbox.kademlia hserve
  | runMaintainer position ids drawn => exact hinbox.kademlia hserve
  | expireIce position => exact hinbox.iceAgent hserve
  | runIce position =>
      obtain ⟨taken, -, hrun⟩ := Option.bind_eq_some_iff.mp hserve
      obtain ⟨middle, hmiddle, hrun⟩ := Option.bind_eq_some_iff.mp hrun
      have hfirst := hinbox.iceAgent hmiddle
      split at hrun
      · exact hfirst.kademlia hrun
      · obtain rfl := Option.some.inj hrun
        exact hfirst
  | refreshIce => exact hinbox.iceAgent hserve
  | refreshPool =>
      obtain rfl := Option.some.inj hserve
      exact hinbox.refreshPool
  | tick id => exact hinbox.iceAgent hserve

theorem Inbox.step {node next : NodeLoop platform} {event : Event} (hinbox : node.Inbox)
    (hstep : node.step event = some next) : next.Inbox := by
  obtain ⟨-, hact⟩ := act_of_step hstep
  cases event with
  | start bootEps ids drawn id =>
      obtain ⟨middle, hmiddle, hbinding⟩ := Option.bind_eq_some_iff.mp hact
      have hstarted : node.startServer.Inbox :=
        hinbox.of_eq (List.Subset.refl _) rfl rfl rfl rfl
      exact (hstarted.kademlia hmiddle).iceAgent hbinding
  | stop =>
      obtain rfl := Option.some.inj hact
      exact hinbox.of_eq (List.Subset.refl _) rfl rfl rfl rfl
  | syncGetGlobalAddress bootEps id => exact hinbox.iceAgent hact
  | updateGlobalSelfEndpoint ep =>
      obtain ⟨middle, hmiddle, hkademlia⟩ := updateGlobalSelfEndpoint_eq_some hact
      exact (hinbox.iceAgent hmiddle).kademlia hkademlia
  | autoUpdate ep => exact hinbox.kademlia hact
  | autoUpdateBatch eps => exact hinbox.kademlia hact
  | hubStart =>
      obtain rfl := Option.some.inj hact
      exact hinbox.of_eq (List.Subset.refl _) rfl rfl rfl rfl
  | hubStop =>
      obtain rfl := Option.some.inj hact
      exact hinbox.of_eq (List.Subset.refl _) rfl rfl rfl rfl
  | getPeer ep =>
      obtain rfl := Option.some.inj hact
      exact hinbox.getPeer ep
  | send position text id =>
      obtain ⟨peer, -, hsend⟩ := Option.bind_eq_some_iff.mp hact
      have hnoted : ({ node with given := node.given ++ [(peer.ep, text)] } :
          NodeLoop platform).Inbox := hinbox.of_eq (List.Subset.refl _) rfl rfl rfl rfl
      exact hnoted.iceAgent hsend
  | receive position timeout =>
      obtain ⟨peer, hpeer, hreceive⟩ := Option.bind_eq_some_iff.mp hact
      exact hinbox.receive (List.mem_of_getElem? hpeer) hreceive
  | advance seconds =>
      obtain ⟨middle, hmiddle, hadvance⟩ := Option.bind_eq_some_iff.mp hact
      exact (hinbox.kademlia hmiddle).iceAgent hadvance
  | serve event =>
      rw [act] at hact
      split_ifs at hact
      exact hinbox.serve hact

/-! ## The arrival of a message -/

/-- A message is noted before it is stored. -/
theorem Inbox.storeMessage {node : NodeLoop platform} {draws : Draws} {msg : Message}
    {ep : Endpoint} (hinbox : node.Inbox)
    (harrived : HasArrived platform node.dht.arrivals (calcPeerId platform ep) msg) :
    (node.storeMessage draws msg ep).Inbox := by
  rw [NodeLoop.storeMessage, MessagePool.store_eq]
  by_cases hice : msg.isContainParam "ice_agent" = true
  · rw [if_pos hice]
    exact hinbox
  · rw [if_neg hice]
    refine { hinbox with
      pool := fun pid buffer hbuffer received hreceived => ?_
      handled := fun handled hhandled => ?_ }
    · rw [MessagePool.find_storeEntry] at hbuffer
      split_ifs at hbuffer with hpid
      · obtain rfl := Option.some.inj hbuffer
        cases List.mem_append.mp hreceived with
        | inl hold =>
            cases hfind : node.msgPool.pool.find pid with
            | none =>
                rw [hfind] at hold
                cases hold
            | some old =>
                rw [hfind] at hold
                exact hinbox.pool pid old hfind received hold
        | inr hnew =>
            rw [List.mem_singleton.mp hnew, hpid]
            exact harrived
      · exact hinbox.pool pid buffer hbuffer received hreceived
    · cases List.mem_append.mp hhandled with
      | inl hold => exact hinbox.handled handled hold
      | inr hnew =>
          split_ifs at hnew
          · rw [List.mem_singleton.mp hnew]
            exact harrived
          · cases hnew

theorem Inbox.onReceivePacket {node : NodeLoop platform} {draws : Draws} {raw : List UInt8}
    {msg : Message} {ep : Endpoint} (hinbox : node.Inbox)
    (hdecode : Message.decode platform raw = .ok msg) :
    (node.onReceivePacket draws raw ep).Inbox := by
  have harrivals := (extends_incomeKademlia node msg ep).dht.arrivals
  have hfirst : (node.incomeKademlia msg ep).Inbox := by
    refine hinbox.of_eq ?_ rfl rfl rfl rfl
    rw [harrivals]
    exact List.subset_append_left _ _
  have hdht := dht_andThen (dht_incomeIceAgent draws msg ep) (node.incomeKademlia msg ep)
  have hagent : (andThen (NodeLoop.incomeIceAgent draws msg ep)
      (node.incomeKademlia msg ep)).Inbox := by
    rw [andThen, NodeLoop.incomeIceAgent]
    split_ifs
    · exact hfirst
    · split
      · exact hfirst.of_eq (List.Subset.refl _) rfl rfl rfl rfl
      · exact hfirst.of_eq (List.Subset.refl _) rfl rfl rfl rfl
  rw [onReceivePacket_of_decode hdecode, andThen]
  split_ifs
  · exact hagent
  · apply hagent.storeMessage
    rw [hdht, harrivals]
    exact ⟨_, List.mem_append_right _ (List.mem_singleton_self _), rfl, rfl⟩

end NodeLoop

end SsP2p.Net

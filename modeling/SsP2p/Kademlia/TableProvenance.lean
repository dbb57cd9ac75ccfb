import SsP2p.Kademlia.ConnectionMaintainer
import SsP2p.Kademlia.Dispatch

/-!
# Where the nodes of the table come from

An endpoint gets into the routing table in three ways only: the application passes it
in, a ping request arrives from it, or it answers a ping of the node.  Endpoints that
others tell of are pinged first.
-/

namespace SsP2p.Kademlia

namespace KMessage

variable (platform : Platform)

def IsPing (msg : Message) (id : Uuid) : Prop :=
  ∃ body, msg.getParam "kademlia" = some body ∧ getRpc ⟨body⟩ = .ok .ping ∧
    getObserverId platform ⟨body⟩ = .ok id

def IsPingRequest (msg : Message) : Prop :=
  ∃ body, msg.getParam "kademlia" = some body ∧ getRpc ⟨body⟩ = .ok .ping ∧
    getMessageType ⟨body⟩ = .ok .request

/-- A ping request with this id was sent to the endpoint. -/
def PingSent (sent : List Outgoing) (id : Uuid) (ep : Endpoint) : Prop :=
  ⟨ep, Message.ofPart "kademlia" (pingRequestBody platform id)⟩ ∈ sent

end KMessage

namespace MaintainedDht

variable (platform : Platform)

/-- A ping of the node went to the endpoint and a ping message with its id arrived
later. -/
def PingAnswered (dht : MaintainedDht) (id : Uuid) (ep : Endpoint) : Prop :=
  ∃ arrival ∈ dht.arrivals, KMessage.IsPing platform arrival.msg id ∧
    KMessage.PingSent platform arrival.sentBefore id ep

/-- Where an endpoint of the table may come from. -/
def Provenance (dht : MaintainedDht) (ep : Endpoint) : Prop :=
  ep ∈ dht.applied ∨
    (∃ arrival ∈ dht.arrivals, arrival.ep = ep ∧
      KMessage.IsPingRequest arrival.msg) ∨
    ∃ id, dht.PingAnswered platform id ep

def Accounted (dht : MaintainedDht) : Prop :=
  ∀ ep, dht.loop.table.Knows ep → dht.Provenance platform ep

/-- The invariant: whatever may still reach the table is accounted for. -/
structure Sourced (dht : MaintainedDht) : Prop where
  table : dht.Accounted platform
  pings : ∀ id obs, dht.loop.strage.pings.find id = some obs →
    obs.timeoutHandler ≠ .autoUpdate ∧
      KMessage.PingSent platform dht.loop.io.sent id obs.destEp ∧ id ∈ dht.loop.issued
  findNodes : ∀ id obs, dht.loop.strage.findNodes.find id = some obs →
    obs.responseHandler ≠ .autoUpdate
  pongs : ∀ id, .pongHandler id ∈ dht.loop.io.pending → id ∈ dht.loop.issued ∧
    ∀ obs, dht.loop.strage.pings.find id = some obs →
      dht.PingAnswered platform id obs.destEp

/-- Nothing is added but what the table and the observers had before. -/
structure Shrinks (loop next : DhtLoop) : Prop where
  table : ∀ ep, next.table.Knows ep → loop.table.Knows ep
  pings : ∀ id obs, next.strage.pings.find id = some obs →
    ∃ old, loop.strage.pings.find id = some old ∧ obs.destEp = old.destEp ∧
      obs.timeoutHandler = old.timeoutHandler
  findNodes : ∀ id obs, next.strage.findNodes.find id = some obs →
    ∃ old, loop.strage.findNodes.find id = some old ∧
      obs.responseHandler = old.responseHandler
  sent : loop.io.sent ⊆ next.io.sent
  issued : loop.issued ⊆ next.issued
  pongs : ∀ id, .pongHandler id ∈ next.io.pending → .pongHandler id ∈ loop.io.pending

variable {platform}

theorem Provenance.mono {dht next : MaintainedDht} {ep : Endpoint}
    (hprovenance : dht.Provenance platform ep) (happlied : dht.applied ⊆ next.applied)
    (harrivals : dht.arrivals ⊆ next.arrivals) : next.Provenance platform ep := by
  rcases hprovenance with hep | ⟨arrival, harrival, hrequest⟩ |
    ⟨id, arrival, harrival, hanswered⟩
  · exact Or.inl (happlied hep)
  · exact Or.inr (Or.inl ⟨arrival, harrivals harrival, hrequest⟩)
  · exact Or.inr (Or.inr ⟨id, arrival, harrivals harrival, hanswered⟩)

/-- What was noted only grows. -/
theorem Sourced.mono {dht next : MaintainedDht} (hsourced : dht.Sourced platform)
    (hloop : next.loop = dht.loop) (happlied : dht.applied ⊆ next.applied)
    (harrivals : dht.arrivals ⊆ next.arrivals) : next.Sourced platform where
  table ep hknows := by
    rw [hloop] at hknows
    exact (hsourced.table ep hknows).mono happlied harrivals
  pings := by
    rw [hloop]
    exact hsourced.pings
  findNodes := by
    rw [hloop]
    exact hsourced.findNodes
  pongs := by
    rw [hloop]
    intro id hpending
    obtain ⟨hissued, hanswered⟩ := hsourced.pongs id hpending
    refine ⟨hissued, fun obs hobs => ?_⟩
    obtain ⟨arrival, harrival, hping⟩ := hanswered obs hobs
    exact ⟨arrival, harrivals harrival, hping⟩

theorem Sourced.of_shrinks {dht : MaintainedDht} {next : DhtLoop}
    (hsourced : dht.Sourced platform) (hshrinks : Shrinks dht.loop next) :
    ({ dht with loop := next } : MaintainedDht).Sourced platform where
  table ep hknows := hsourced.table ep (hshrinks.table ep hknows)
  pings id obs hobs := by
    obtain ⟨old, hold, hep, htimeout⟩ := hshrinks.pings id obs hobs
    obtain ⟨hhandler, hsent, hissued⟩ := hsourced.pings id old hold
    rw [hep, htimeout]
    exact ⟨hhandler, hshrinks.sent hsent, hshrinks.issued hissued⟩
  findNodes id obs hobs := by
    obtain ⟨old, hold, hhandler⟩ := hshrinks.findNodes id obs hobs
    rw [hhandler]
    exact hsourced.findNodes id old hold
  pongs id hpending := by
    obtain ⟨hissued, hanswered⟩ := hsourced.pongs id (hshrinks.pongs id hpending)
    refine ⟨hshrinks.issued hissued, fun obs hobs => ?_⟩
    obtain ⟨old, hold, hep, -⟩ := hshrinks.pings id obs hobs
    rw [hep]
    exact hanswered old hold

theorem shrinks_of_eq {loop next : DhtLoop} (htable : next.table = loop.table)
    (hstrage : next.strage = loop.strage) (hsent : next.io.sent = loop.io.sent)
    (hissued : next.issued = loop.issued)
    (hpending : ∀ id, .pongHandler id ∈ next.io.pending →
      .pongHandler id ∈ loop.io.pending) : Shrinks loop next where
  table _ hknows := htable ▸ hknows
  pings _ obs hobs := ⟨obs, hstrage ▸ hobs, rfl, rfl⟩
  findNodes _ obs hobs := ⟨obs, hstrage ▸ hobs, rfl⟩
  sent := hsent ▸ List.Subset.refl _
  issued := hissued ▸ List.Subset.refl _
  pongs := hpending

/-! ## What each function does -/

/-- A new endpoint in the table is accounted for. -/
theorem Sourced.withTable {dht : MaintainedDht} {table : KRoutingTable}
    (hsourced : dht.Sourced platform)
    (htable : ∀ ep, table.Knows ep → dht.Provenance platform ep) :
    ({ dht with loop := dht.loop.withTable table } : MaintainedDht).Sourced platform where
  table := htable
  pings := hsourced.pings
  findNodes := hsourced.findNodes
  pongs := hsourced.pongs

/-- A ping is noted before its observer can be answered. -/
theorem Sourced.pingRequest {dht : MaintainedDht} {next : DhtLoop} {newId : Uuid}
    {ep : Endpoint} {pongHandler timeoutHandler : Handler}
    (hsourced : dht.Sourced platform) (hhandler : timeoutHandler ≠ .autoUpdate)
    (hrequest : dht.loop.pingRequest platform newId ep pongHandler timeoutHandler =
      some next) :
    ({ dht with loop := next } : MaintainedDht).Sourced platform := by
  have hissued : newId ∉ dht.loop.issued := (DhtLoop.pingRequest_eq_some platform
    hrequest).1
  rw [DhtLoop.pingRequest, if_neg hissued, RpcManager.pingRequest_eq] at hrequest
  obtain rfl := Option.some.inj hrequest
  refine ⟨hsourced.table, ?_, hsourced.findNodes, ?_⟩
  · intro id obs hobs
    cases KeyedList.find_insert_cases hobs with
    | inl hnew =>
        obtain ⟨hid, rfl⟩ := hnew
        obtain rfl : newId = id := hid
        exact ⟨hhandler, List.mem_append_right _ (List.mem_singleton_self _),
          List.mem_cons_self⟩
    | inr hold =>
        obtain ⟨htimeout, hsent, hdrawn⟩ := hsourced.pings id obs hold
        exact ⟨htimeout, List.mem_append_left _ hsent, List.mem_cons_of_mem newId hdrawn⟩
  · intro id hpending
    have hwaiting : .pongHandler id ∈ dht.loop.io.pending := by
      simpa [Ping.init] using hpending
    obtain ⟨hdrawn, hanswered⟩ := hsourced.pongs id hwaiting
    refine ⟨List.mem_cons_of_mem newId hdrawn, fun obs hobs => ?_⟩
    cases KeyedList.find_insert_cases hobs with
    | inl hnew =>
        obtain rfl : newId = id := hnew.1
        exact absurd hdrawn hissued
    | inr hold => exact hanswered obs hold

theorem Sourced.findNodeRequest {dht : MaintainedDht} {next : DhtLoop} {newId : Uuid}
    {ep : Endpoint} {ignoreEps : List Endpoint} {responseHandler : Handler}
    (hsourced : dht.Sourced platform) (hhandler : responseHandler ≠ .autoUpdate)
    (hrequest : dht.loop.findNodeRequest platform newId ep ignoreEps responseHandler =
      some next) :
    ({ dht with loop := next } : MaintainedDht).Sourced platform := by
  obtain ⟨-, payload, rfl⟩ := DhtLoop.findNodeRequest_eq_some platform hrequest
  refine ⟨hsourced.table, ?_, ?_, ?_⟩
  · intro id obs hobs
    obtain ⟨htimeout, hsent, hdrawn⟩ := hsourced.pings id obs hobs
    exact ⟨htimeout, List.mem_append_left _ hsent, List.mem_cons_of_mem newId hdrawn⟩
  · intro id obs hobs
    cases KeyedList.find_insert_cases hobs with
    | inl hnew =>
        rw [hnew.2]
        exact hhandler
    | inr hold => exact hsourced.findNodes id obs hold
  · intro id hpending
    obtain ⟨hdrawn, hanswered⟩ := hsourced.pongs id hpending
    exact ⟨List.mem_cons_of_mem newId hdrawn, hanswered⟩

/-- A bound handler adds its endpoint to the table only as `auto_update`. -/
theorem Sourced.invoke {dht : MaintainedDht} {next : DhtLoop} {handler : Handler}
    {ep : Endpoint} {newId : Uuid} (hsourced : dht.Sourced platform)
    (hep : handler = .autoUpdate → dht.Provenance platform ep)
    (hinvoke : dht.loop.invoke platform handler ep newId = some next) :
    ({ dht with loop := next } : MaintainedDht).Sourced platform := by
  cases handler with
  | moveBack index kn =>
      obtain rfl := Option.some.inj hinvoke
      apply hsourced.withTable
      intro other hother
      apply hsourced.table other (KRoutingTable.knows_setBucket _ hother)
      intro stored hstored
      rw [KBucket.nodes_moveBack] at hstored
      exact Recency.mem_touch_iff.mp hstored
  | deleteNode index kn =>
      obtain rfl := Option.some.inj hinvoke
      apply hsourced.withTable
      intro other hother
      apply hsourced.table other (KRoutingTable.knows_setBucket _ hother)
      intro stored hstored
      rw [KBucket.nodes_deleteNode] at hstored
      exact Recency.mem_of_mem_forget hstored
  | autoUpdate =>
      obtain rfl := Option.some.inj hinvoke
      apply hsourced.withTable
      intro other hother
      rw [KRoutingTable.autoUpdateEndpoint_eq_step] at hother
      cases KRoutingTable.knows_step hother with
      | inl hold => exact hsourced.table other hold
      | inr hnew =>
          rw [hnew]
          exact hep rfl
  | null =>
      obtain rfl := Option.some.inj hinvoke
      exact hsourced
  | pingFound => exact hsourced.pingRequest Handler.noConfusion hinvoke

/-! ## Callbacks -/

theorem shrinks_take {loop : DhtLoop} {io : IoContext} {position : ℕ}
    {callback : Callback} (htake : loop.io.take position = some (callback, io)) :
    Shrinks loop { loop with io := io } := by
  have hsent : io.sent = loop.io.sent := by
    rw [(IoContext.take_eq_some htake).2]
  refine shrinks_of_eq rfl rfl hsent rfl fun id hid => ?_
  rw [IoContext.pending_take htake]
  exact Multiset.mem_cons_of_mem hid

theorem shrinks_timeout (loop : DhtLoop) (obs : Ping) :
    Shrinks loop (loop.timeout obs) := by
  rw [DhtLoop.timeout]
  split_ifs
  · exact shrinks_of_eq rfl rfl rfl rfl fun _ hid => hid
  · refine ⟨fun _ hknows => hknows, ?_, fun _ found hfound => ⟨found, hfound, rfl⟩,
      List.Subset.refl _, List.Subset.refl _, ?_⟩
    · intro id found hfound
      obtain ⟨old, hold, rfl | rfl⟩ := KeyedList.find_modify_cases Ping.id_timedOut hfound
      · exact ⟨old, hold, rfl, rfl⟩
      · exact ⟨found, hold, rfl, rfl⟩
    · intro id hid
      simpa using hid

theorem shrinks_refreshTick (loop : DhtLoop) : Shrinks loop loop.refreshTick := by
  refine ⟨fun _ hknows => hknows, ?_, ?_, List.Subset.refl _, List.Subset.refl _, ?_⟩
  · intro id obs hobs
    exact ⟨obs, KeyedList.find_of_find_filter hobs, rfl, rfl⟩
  · intro id obs hobs
    exact ⟨obs, KeyedList.find_of_find_filter hobs, rfl⟩
  · intro id hid
    simpa [DhtLoop.refreshTick] using hid

theorem Sourced.runCallback {dht : MaintainedDht} {next : DhtLoop} {io : IoContext}
    {position : ℕ} {newId : Uuid} {callback : Callback} (hsourced : dht.Sourced platform)
    (htake : dht.loop.io.take position = some (callback, io))
    (hrun : DhtLoop.runCallback platform { dht.loop with io := io } newId callback =
      some next) : ({ dht with loop := next } : MaintainedDht).Sourced platform := by
  have htaken := hsourced.of_shrinks (shrinks_take htake)
  have hlogged : ∀ invocation, ({ dht with
      loop := ({ dht.loop with io := io } : DhtLoop).log invocation } :
        MaintainedDht).Sourced platform :=
    fun _ => ⟨htaken.table, htaken.pings, htaken.findNodes, htaken.pongs⟩
  rcases DhtLoop.runCallback_cases platform hrun with
    ⟨obsId, obs, -, -, rfl⟩ | ⟨invocation, handler, ep, hcalls, hinvoke⟩ | ⟨-, rfl⟩
  · exact htaken.of_shrinks (shrinks_timeout _ obs)
  · refine (hlogged invocation).invoke (fun hauto => ?_) hinvoke
    cases hcalls with
    | pong obsId obs hfind =>
        have hpending : .pongHandler obsId ∈ dht.loop.io.pending := by
          rw [IoContext.pending_take htake]
          exact Multiset.mem_cons_self _ _
        exact Or.inr (Or.inr ⟨obsId, (hsourced.pongs obsId hpending).2 obs hfind⟩)
    | timeout obsId obs hfind => exact absurd hauto (hsourced.pings obsId obs hfind).1
    | response obsId ep obs hfind => exact absurd hauto (hsourced.findNodes obsId obs hfind)
  · exact htaken.of_shrinks (shrinks_refreshTick _)

/-! ## Messages -/

/-- The receiver of a ping message with the id of an observer. -/
theorem isPing_of_receiver {manager : DhtManager} {msg : Message} {obs : Ping}
    (hreceiver : manager.receiver platform msg = some (.ping obs)) :
    KMessage.IsPing platform msg obs.id := by
  rw [DhtManager.receiver, Option.bind_eq_some_iff] at hreceiver
  obtain ⟨body, hbody, hreceiver⟩ := hreceiver
  rw [Fallible.toOption_eq_some_iff, DhtManager.receiverOf, Fallible.bind_eq_ok]
    at hreceiver
  obtain ⟨rpc, hrpc, hreceiver⟩ := hreceiver
  rw [Fallible.bind_eq_ok] at hreceiver
  obtain ⟨obsId, hobsId, hreceiver⟩ := hreceiver
  rw [Fallible.pure_eq_ok] at hreceiver
  have hid : obs.id = obsId :=
    KeyedList.key_of_find (DhtManager.findReceiver_eq_ping hreceiver)
  cases rpc with
  | ping => exact ⟨body, hbody, hrpc, hid ▸ hobsId⟩
  | findNode =>
      cases hfind : manager.obsStrage.findNodes.find obsId <;>
        simp [DhtManager.findReceiver, hfind] at hreceiver
  | none => cases hreceiver

/-- A message adds at most its source to the table, and that as a ping request. -/
theorem knows_tableAfter {manager : DhtManager} {msg : Message} {ep known : Endpoint}
    (hknows : (manager.tableAfter platform msg ep).Knows known) :
    manager.routingTable.Knows known ∨ known = ep ∧ KMessage.IsPingRequest msg := by
  rw [DhtManager.tableAfter] at hknows
  split at hknows
  · next body _ hbody =>
      rw [RpcManager.tableAfter] at hknows
      split at hknows
      · next htype hrpc =>
          apply (KRoutingTable.knows_autoUpdateBatch hknows).imp_right
          intro hmem
          exact ⟨List.mem_singleton.mp hmem, body, hbody, hrpc, htype⟩
      · exact Or.inl hknows
  · exact Or.inl hknows

theorem Sourced.receive {dht : MaintainedDht} {next : DhtLoop} {msg : Message}
    {ep : Endpoint} (hsourced : dht.Sourced platform)
    (harrival : ⟨msg, ep, dht.loop.io.sent⟩ ∈ dht.arrivals)
    (hstep : dht.loop.step platform (.receive msg ep) = some next) :
    ({ dht with loop := next } : MaintainedDht).Sourced platform := by
  obtain ⟨manager, io, hincome, rfl⟩ := DhtLoop.receive_eq_some platform hstep
  have htable : ∀ known, manager.routingTable.Knows known →
      dht.Provenance platform known := by
    intro known hknows
    rw [DhtManager.routingTable_of_incomeMessage hincome] at hknows
    cases knows_tableAfter hknows with
    | inl hold => exact hsourced.table known hold
    | inr hnew => exact Or.inr (Or.inl ⟨_, harrival, hnew.1.symm, hnew.2⟩)
  rcases DhtManager.incomeMessage_cases hincome with
    ⟨obs, hreceiver, hobs, rfl, rfl⟩ | ⟨obs, findedEps, -, -, -, rfl, rfl⟩ |
    ⟨table, rfl, hanswers⟩
  · have hfind : ∀ id found, (dht.loop.strage.answerPing obs.id).pings.find id =
        some found → ∃ old, dht.loop.strage.pings.find id = some old ∧
          found.destEp = old.destEp ∧ found.timeoutHandler = old.timeoutHandler := by
      intro id found hfound
      obtain ⟨old, hold, rfl | rfl⟩ := KeyedList.find_modify_cases Ping.id_answered hfound
      · exact ⟨old, hold, rfl, rfl⟩
      · exact ⟨found, hold, rfl, rfl⟩
    refine ⟨htable, ?_, hsourced.findNodes, ?_⟩
    · intro id found hfound
      obtain ⟨old, hold, hep, htimeout⟩ := hfind id found hfound
      obtain ⟨hhandler, hsent, hissued⟩ := hsourced.pings id old hold
      rw [hep, htimeout]
      exact ⟨hhandler, hsent, hissued⟩
    · intro id hpending
      have hcases : id = obs.id ∨ .pongHandler id ∈ dht.loop.io.pending := by
        simpa [Ping.incomeMessage] using hpending
      by_cases hid : id = obs.id
      · subst hid
        obtain ⟨-, hsent, hissued⟩ := hsourced.pings obs.id obs hobs
        refine ⟨hissued, fun found hfound => ?_⟩
        obtain ⟨old, hold, hep, -⟩ := hfind obs.id found hfound
        obtain rfl : obs = old := Option.some.inj (hobs.symm.trans hold)
        rw [hep]
        exact ⟨_, harrival, isPing_of_receiver hreceiver, hsent⟩
      · obtain ⟨hissued, hanswered⟩ := hsourced.pongs id (hcases.resolve_left hid)
        refine ⟨hissued, fun found hfound => ?_⟩
        obtain ⟨old, hold, hep, -⟩ := hfind id found hfound
        rw [hep]
        exact hanswered old hold
  · refine ⟨htable, ?_, ?_, ?_⟩
    · rw [FindNode.postAll_eq]
      exact hsourced.pings
    · intro id found hfound
      obtain ⟨old, hold, rfl | rfl⟩ := KeyedList.find_modify_cases FindNode.id_answered hfound
      · exact hsourced.findNodes id old hold
      · exact hsourced.findNodes id found hold
    · intro id hpending
      have hwaiting : .pongHandler id ∈ dht.loop.io.pending := by
        simpa [FindNode.pending_postAll] using hpending
      exact hsourced.pongs id hwaiting
  · have hsent := (DhtManager.sent_prefix_of_incomeMessage hincome).subset
    obtain ⟨sent, hsends⟩ := hanswers.sends
    obtain rfl : io = { dht.loop.io with sent := sent } := hsends
    refine ⟨htable, ?_, hsourced.findNodes, hsourced.pongs⟩
    intro id obs hobs
    obtain ⟨hhandler, hping, hissued⟩ := hsourced.pings id obs hobs
    exact ⟨hhandler, hsent hping, hissued⟩

/-! ## Runs -/

/-- The pings and the find_nodes of the maintainer. -/
theorem Sourced.sendRefreshPing {dht : MaintainedDht} {ids rest : List Uuid}
    {loop : DhtLoop} (hsourced : dht.Sourced platform)
    (hpings : dht.loop.sendRefreshPing platform ids = some (loop, rest)) :
    ({ dht with loop := loop } : MaintainedDht).Sourced platform := by
  rw [DhtLoop.sendRefreshPing_eq] at hpings
  exact Supply.invariant_of_forEach
    (fun state => ({ dht with loop := state } : MaintainedDht).Sourced platform)
    (fun _ _ _ _ _ hstate hping => hstate.pingRequest Handler.noConfusion hping)
    hsourced hpings

theorem Sourced.findNodeFrom {dht : MaintainedDht} {requestEps : List Endpoint}
    {ids rest : List Uuid} {loop : DhtLoop} (hsourced : dht.Sourced platform)
    (hfinds : dht.loop.findNodeFrom platform requestEps ids = some (loop, rest)) :
    ({ dht with loop := loop } : MaintainedDht).Sourced platform :=
  Supply.invariant_of_forEach
    (fun state => ({ dht with loop := state } : MaintainedDht).Sourced platform)
    (fun _ _ _ _ _ hstate hfind => hstate.findNodeRequest Handler.noConfusion hfind)
    hsourced hfinds

/-- The timer and the flag of the maintainer are no part of the invariant. -/
theorem Sourced.of_eq {dht next : MaintainedDht} (hsourced : dht.Sourced platform)
    (hloop : next.loop = dht.loop) (happlied : next.applied = dht.applied)
    (harrivals : next.arrivals = dht.arrivals) : next.Sourced platform :=
  hsourced.mono hloop (happlied ▸ List.Subset.refl _) (harrivals ▸ List.Subset.refl _)

theorem Sourced.tick {dht next : MaintainedDht} {ids : List Uuid}
    (hsourced : dht.Sourced platform) (htick : dht.tick platform ids = some next) :
    next.Sourced platform := by
  rw [MaintainedDht.tick] at htick
  split_ifs at htick
  · obtain ⟨rest, hpings, rfl⟩ := Option.map_eq_some_iff.mp htick
    exact (hsourced.sendRefreshPing hpings).of_eq rfl rfl rfl
  · obtain rfl := Option.some.inj htick
    exact hsourced

theorem Sourced.tickDone {dht : MaintainedDht} (hsourced : dht.Sourced platform) :
    dht.tickDone.Sourced platform := by
  simp only [MaintainedDht.tickDone]
  split_ifs
  · exact hsourced.of_eq rfl rfl rfl
  · exact hsourced.of_eq rfl rfl rfl
  · exact hsourced

theorem Sourced.getRemoteNodes {dht next : MaintainedDht} {ids : List Uuid}
    (hsourced : dht.Sourced platform)
    (hremote : dht.getRemoteNodes platform ids = some next) : next.Sourced platform := by
  rw [MaintainedDht.getRemoteNodes] at hremote
  split_ifs at hremote
  · obtain ⟨rest, hfinds, rfl⟩ := Option.map_eq_some_iff.mp hremote
    exact (hsourced.findNodeFrom hfinds).tickDone
  · obtain rfl := Option.some.inj hremote
    exact hsourced.tickDone

theorem sourced_step {dht next : MaintainedDht} {event : Event}
    (hsourced : dht.Sourced platform) (hstep : dht.step platform event = some next) :
    next.Sourced platform := by
  cases event with
  | receive msg ep =>
      have hnoted : ({ dht with arrivals := dht.arrivals ++ [⟨msg, ep, dht.loop.io.sent⟩] } :
          MaintainedDht).Sourced platform :=
        hsourced.mono rfl (List.Subset.refl _) (List.subset_append_left _ _)
      obtain rfl := Option.some.inj hstep
      cases hreceive : ({ dht with
          arrivals := dht.arrivals ++ [⟨msg, ep, dht.loop.io.sent⟩] } :
            MaintainedDht).loopStep platform (.receive msg ep) with
      | none => exact hnoted
      | some next =>
          obtain ⟨loop, hloop, rfl⟩ := loopStep_eq_some platform hreceive
          exact hnoted.receive (List.mem_append_right _ (List.mem_singleton_self _)) hloop
  | autoUpdate ep =>
      obtain rfl := Option.some.inj hstep
      have hnoted : ({ dht with applied := dht.applied ++ [ep] } :
          MaintainedDht).Sourced platform :=
        hsourced.mono rfl (List.subset_append_left _ _) (List.Subset.refl _)
      apply hnoted.withTable
      intro known hknows
      rw [KRoutingTable.autoUpdateEndpoint_eq_step] at hknows
      cases KRoutingTable.knows_step hknows with
      | inl hold => exact hnoted.table known hold
      | inr hnew =>
          rw [hnew]
          exact Or.inl (List.mem_append_right _ (List.mem_singleton_self _))
  | autoUpdateBatch eps =>
      obtain rfl := Option.some.inj hstep
      have hnoted : ({ dht with applied := dht.applied ++ eps } :
          MaintainedDht).Sourced platform :=
        hsourced.mono rfl (List.subset_append_left _ _) (List.Subset.refl _)
      apply hnoted.withTable
      intro known hknows
      cases KRoutingTable.knows_autoUpdateBatch hknows with
      | inl hold => exact hnoted.table known hold
      | inr hnew => exact Or.inl (List.mem_append_right _ hnew)
  | updateGlobalSelfEndpoint ep =>
      obtain ⟨loop, hloop, rfl⟩ := loopStep_eq_some platform hstep
      obtain rfl := Option.some.inj hloop
      exact hsourced.of_shrinks (shrinks_of_eq rfl rfl rfl rfl fun _ hid => hid)
  | start ids =>
      have hstarted : ({ dht with requiresTick := true } : MaintainedDht).Sourced platform :=
        hsourced.of_eq rfl rfl rfl
      exact hstarted.tick hstep
  | stop =>
      obtain rfl := Option.some.inj hstep
      exact hsourced.of_eq rfl rfl rfl
  | advance seconds =>
      obtain ⟨loop, hloop, rfl⟩ := loopStep_eq_some platform hstep
      obtain rfl := Option.some.inj hloop
      exact hsourced.of_shrinks (shrinks_of_eq rfl rfl rfl rfl fun _ hid => hid)
  | expire position =>
      obtain ⟨loop, hloop, rfl⟩ := loopStep_eq_some platform hstep
      obtain ⟨io, hexpire, rfl⟩ := Option.map_eq_some_iff.mp hloop
      have hsent : io.sent = dht.loop.io.sent := by
        obtain ⟨wait, -, rfl⟩ := IoContext.expire_eq_some hexpire
        rfl
      apply hsourced.of_shrinks
      refine shrinks_of_eq rfl rfl hsent rfl fun id hid => ?_
      rw [← IoContext.pending_expire hexpire]
      exact hid
  | run position id =>
      obtain ⟨loop, hloop, rfl⟩ := loopStep_eq_some platform hstep
      obtain ⟨⟨callback, io⟩, htake, hrun⟩ := Option.bind_eq_some_iff.mp hloop
      exact hsourced.runCallback htake hrun
  | expireTimer position =>
      obtain ⟨wait, -, hwait⟩ := Option.bind_eq_some_iff.mp hstep
      split_ifs at hwait
      obtain rfl := Option.some.inj hwait
      exact hsourced.of_eq rfl rfl rfl
  | runTask position ids =>
      obtain ⟨task, -, htask⟩ := Option.bind_eq_some_iff.mp hstep
      have htaken : ({ dht with ready := dht.ready.eraseIdx position } :
          MaintainedDht).Sourced platform := hsourced.of_eq rfl rfl rfl
      cases task with
      | tick => exact htaken.tick htask
      | getRemoteNodes => exact htaken.getRemoteNodes htask

theorem sourced_make (ep : Endpoint) (now : ℕ) : (make platform ep now).Sourced platform where
  table known hknows := absurd hknows (KRoutingTable.not_knows_empty _ known)
  pings id obs hobs := by cases hobs
  findNodes id obs hobs := by cases hobs
  pongs id hpending := by
    simp [make, DhtLoop.start] at hpending

/-- In every state of every run each endpoint of the routing table was passed in by the
application, sent a ping request, or answered a ping of the node. -/
theorem throughout_accounted (ep : Endpoint) (now : ℕ) (events : List Event) :
    Runs.Throughout (step platform) (Accounted platform) (make platform ep now) events :=
  Runs.throughout_of_step (Sourced platform) (fun _ _ _ => sourced_step)
    (fun _ hsourced => hsourced.table) (sourced_make ep now) events

end MaintainedDht

end SsP2p.Kademlia

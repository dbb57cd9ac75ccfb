import SsP2p.Kademlia.SoundMessages
import SsP2p.Kademlia.TableProvenance

/-!
# What a node sends to others

As long as a node is given IPv4 endpoints and the messages of other nodes, it sends
nothing but requests under ids of its own and replies to requests that have arrived.
-/

namespace SsP2p.Kademlia

namespace KMessage

/-- The Kademlia part, if there is one, is as a node writes it. -/
def SoundPart (platform : Platform) (msg : Message) : Prop :=
  ∀ body, msg.getParam "kademlia" = some body →
    ∃ rpc messageType id, Sound platform body rpc messageType id

variable {platform : Platform}

theorem SoundPart.ordered {msg : Message} (hsound : SoundPart platform msg) :
    SoundPart platform msg.ordered := by
  intro body hbody
  rw [Message.getParam_ordered, Option.map_eq_some_iff] at hbody
  obtain ⟨sent, hsent, rfl⟩ := hbody
  obtain ⟨rpc, messageType, id, hsent⟩ := hsound sent hsent
  exact ⟨rpc, messageType, id, hsent.ordered⟩

theorem ofPart_injective {param : String} {body other : Json}
    (heq : Message.ofPart param body = Message.ofPart param other) : body = other := by
  have hpart := congrArg (Message.getParam · param) heq
  simpa using hpart

/-- Only a ping request counts as one. -/
theorem pingSent_append_iff (hreads : platform.ReadsBack) (hshort : platform.ShortTexts)
    {sent : List Outgoing} {dest ep : Endpoint} {body : Json} {rpc : Rpc}
    {messageType : MessageType} {id other : Uuid}
    (hsound : Sound platform body rpc messageType id)
    (hother : ¬ (rpc = .ping ∧ messageType = .request)) :
    PingSent platform (sent ++ [⟨dest, Message.ofPart "kademlia" body⟩]) other ep ↔
      PingSent platform sent other ep := by
  rw [PingSent, PingSent, List.mem_append, List.mem_singleton]
  apply or_iff_left
  intro heq
  obtain ⟨-, hmsg⟩ := Outgoing.mk.inj heq
  have hping := sound_pingRequestBody hshort other
  rw [ofPart_injective hmsg] at hping
  obtain ⟨hrpc, htype, -⟩ := hsound.unique hreads hping
  exact hother ⟨hrpc, htype⟩

end KMessage

namespace RpcManager

variable {platform : Platform}

/-- The RPC manager answers what a node asks, and at most learns of the asker. -/
theorem exists_reply_of_sound (hreads : platform.ReadsBack) (hshort : platform.ShortTexts)
    {msg : Message} {body : Json} {rpc : KMessage.Rpc} {id : Uuid} {table : KRoutingTable}
    (hpart : msg.getParam "kademlia" = some body)
    (hsound : KMessage.Sound platform body rpc .request id)
    (hknown : ∀ known, table.Knows known → known.IsV4) (io : IoContext) (ep : Endpoint) :
    ∃ next reply, incomeMessage platform table io msg ep =
        .ok (next, io.asyncSend ep "kademlia" reply) ∧
      KMessage.Sound platform reply rpc .response id ∧
      ∀ known, next.Knows known → table.Knows known ∨ known = ep := by
  have hmsg := hsound.wellFormed hreads hpart
  obtain ⟨fields, rfl⟩ := hsound.exists_fields
  simp only [incomeMessage, hpart, hmsg.getMessageType_eq, Fallible.ok_bind, incomeRequest,
    hmsg.getRpc_eq]
  cases rpc with
  | ping =>
      refine ⟨_, _, rfl, hsound.pong, fun known hknows => ?_⟩
      exact (KRoutingTable.knows_autoUpdateBatch hknows).imp_right List.mem_singleton.mp
  | findNode =>
      obtain ⟨ignoreEps, -, hget⟩ :=
        KMessage.getEndpoints_of_listsEndpoints hreads (hsound.ignoreEps rfl rfl)
      have hignore : KMessage.getIgnoreEndpoint platform ⟨.object fields⟩ = .ok ignoreEps :=
        hget
      simp only [findNodeResponse, hignore, Fallible.ok_bind]
      refine ⟨_, _, rfl, hsound.found hshort ?_, fun known hknows => Or.inl hknows⟩
      intro found hfound
      exact hknown found (KRoutingTable.mem_collectEndpoint hfound).1
  | none => exact absurd rfl hsound.rpcNamed

end RpcManager

namespace MaintainedDht

variable (platform : Platform)

/-- What a node may send: a request under an id that it has drawn, or a reply to a request
that has arrived. -/
inductive Vouched (dht : MaintainedDht) : Outgoing → Prop
  | ping (ep : Endpoint) (id : Uuid) (hv4 : ep.IsV4) (hissued : id ∈ dht.loop.issued) :
      Vouched dht ⟨ep, .ofPart "kademlia" (KMessage.pingRequestBody platform id)⟩
  | findNode (ep : Endpoint) (id : Uuid) (ignoreEps : List Endpoint) (hv4 : ep.IsV4)
      (hignore : ∀ ignored ∈ ignoreEps, ignored.IsV4) (hissued : id ∈ dht.loop.issued) :
      Vouched dht
        ⟨ep, .ofPart "kademlia" (KMessage.findNodeRequestBody platform id ignoreEps)⟩
  | reply (arrival : Arrival) (asked body : Json) (rpc : KMessage.Rpc) (id : Uuid)
      (harrival : arrival ∈ dht.arrivals) (hv4 : arrival.ep.IsV4)
      (hpart : arrival.msg.getParam "kademlia" = some asked)
      (hasked : KMessage.Sound platform asked rpc .request id)
      (hbody : KMessage.Sound platform body rpc .response id) :
      Vouched dht ⟨arrival.ep, .ofPart "kademlia" body⟩

/-- The invariant: the node knows IPv4 endpoints only, it waits under ids of its own, it
vouches for everything that it has sent, and no id of a ping was used twice. -/
structure Proper (dht : MaintainedDht) : Prop where
  known : ∀ ep, dht.loop.table.Knows ep → ep.IsV4
  pings : ∀ id obs, dht.loop.strage.pings.find id = some obs → obs.destEp.IsV4
  findNodes : ∀ id obs, dht.loop.strage.findNodes.find id = some obs → id ∈ dht.loop.issued
  found : ∀ id ep, .responseHandler id ep ∈ dht.loop.io.pending → ep.IsV4
  sent : ∀ out ∈ dht.loop.io.sent, dht.Vouched platform out
  once : ∀ id ep other, KMessage.PingSent platform dht.loop.io.sent id ep →
    KMessage.PingSent platform dht.loop.io.sent id other → ep = other

/-- What comes from outside: endpoints are IPv4 endpoints and messages come from nodes. -/
def Admits : Event → Prop
  | .receive msg ep => ep.IsV4 ∧ KMessage.SoundPart platform msg
  | .autoUpdate ep => ep.IsV4
  | .autoUpdateBatch eps => ∀ ep ∈ eps, ep.IsV4
  | _ => True

/-- A step that sends nothing and hands over nothing but what was there. -/
structure Quiet (loop next : DhtLoop) : Prop extends Shrinks loop next where
  sentEq : next.io.sent = loop.io.sent
  found : ∀ id ep, .responseHandler id ep ∈ next.io.pending →
    .responseHandler id ep ∈ loop.io.pending

/-- The message is a find_node request under an id that the node waits for itself. -/
def EchoesFindNode (dht : MaintainedDht) (msg : Message) : Prop :=
  ∃ body id, msg.getParam "kademlia" = some body ∧
    KMessage.Sound platform body .findNode .request id ∧
      (dht.loop.strage.findNodes.find id).isSome

variable {platform}

theorem Vouched.mono {dht next : MaintainedDht} {out : Outgoing}
    (hvouched : dht.Vouched platform out) (hissued : dht.loop.issued ⊆ next.loop.issued)
    (harrivals : dht.arrivals ⊆ next.arrivals) : next.Vouched platform out := by
  cases hvouched with
  | ping ep id hv4 hid => exact .ping ep id hv4 (hissued hid)
  | findNode ep id ignoreEps hv4 hignore hid =>
      exact .findNode ep id ignoreEps hv4 hignore (hissued hid)
  | reply arrival asked body rpc id harrival hv4 hpart hasked hbody =>
      exact .reply arrival asked body rpc id (harrivals harrival) hv4 hpart hasked hbody

/-- Every message of the node has a sound part, and a request has an id of the node. -/
theorem Vouched.exists_sound (hshort : platform.ShortTexts) {dht : MaintainedDht}
    {out : Outgoing} (hvouched : dht.Vouched platform out) :
    out.dest.IsV4 ∧ ∃ body rpc messageType id,
      out.msg = .ofPart "kademlia" body ∧ KMessage.Sound platform body rpc messageType id ∧
      (messageType = .request → id ∈ dht.loop.issued) := by
  cases hvouched with
  | ping ep id hv4 hid =>
      exact ⟨hv4, _, _, _, _, rfl, KMessage.sound_pingRequestBody hshort id, fun _ => hid⟩
  | findNode ep id ignoreEps hv4 hignore hid =>
      exact ⟨hv4, _, _, _, _, rfl, KMessage.sound_findNodeRequestBody hshort id hignore,
        fun _ => hid⟩
  | reply arrival asked body rpc id harrival hv4 hpart hasked hbody =>
      exact ⟨hv4, _, _, _, _, rfl, hbody, nofun⟩

theorem Proper.issued_of_pingSent (hreads : platform.ReadsBack) (hshort : platform.ShortTexts)
    {dht : MaintainedDht} (hproper : dht.Proper platform) {id : Uuid} {ep : Endpoint}
    (hsent : KMessage.PingSent platform dht.loop.io.sent id ep) : id ∈ dht.loop.issued := by
  obtain ⟨-, body, rpc, messageType, other, hmsg, hsound, hissued⟩ :=
    (hproper.sent _ hsent).exists_sound hshort
  have hping := KMessage.sound_pingRequestBody hshort id
  rw [KMessage.ofPart_injective hmsg] at hping
  obtain ⟨-, htype, hid⟩ := hsound.unique hreads hping
  rw [← hid]
  exact hissued htype

/-- The clock, the flag and the timer of the maintainer are no part of the invariant. -/
theorem Proper.of_eq {dht next : MaintainedDht} (hproper : dht.Proper platform)
    (hloop : next.loop = dht.loop) (harrivals : dht.arrivals ⊆ next.arrivals) :
    next.Proper platform where
  known := hloop ▸ hproper.known
  pings := hloop ▸ hproper.pings
  findNodes := hloop ▸ hproper.findNodes
  found := hloop ▸ hproper.found
  sent out hout := by
    rw [hloop] at hout
    exact (hproper.sent out hout).mono (hloop ▸ List.Subset.refl _) harrivals
  once := hloop ▸ hproper.once

theorem Proper.of_quiet {dht : MaintainedDht} {next : DhtLoop} (hproper : dht.Proper platform)
    (hquiet : Quiet dht.loop next) :
    ({ dht with loop := next } : MaintainedDht).Proper platform where
  known ep hknows := hproper.known ep (hquiet.table ep hknows)
  pings id obs hobs := by
    obtain ⟨old, hold, hep, -⟩ := hquiet.pings id obs hobs
    rw [hep]
    exact hproper.pings id old hold
  findNodes id obs hobs := by
    obtain ⟨old, hold, -⟩ := hquiet.findNodes id obs hobs
    exact hquiet.issued (hproper.findNodes id old hold)
  found id ep hpending := hproper.found id ep (hquiet.found id ep hpending)
  sent out hout := by
    rw [hquiet.sentEq] at hout
    exact (hproper.sent out hout).mono hquiet.issued (List.Subset.refl _)
  once := by
    rw [hquiet.sentEq]
    exact hproper.once

theorem Proper.withTable {dht : MaintainedDht} {table : KRoutingTable}
    (hproper : dht.Proper platform) (htable : ∀ ep, table.Knows ep → ep.IsV4) :
    ({ dht with loop := dht.loop.withTable table } : MaintainedDht).Proper platform where
  known := htable
  pings := hproper.pings
  findNodes := hproper.findNodes
  found := hproper.found
  sent out hout := (hproper.sent out hout).mono (List.Subset.refl _) (List.Subset.refl _)
  once := hproper.once

/-! ## Requests -/

/-- A ping goes out under an id that is new. -/
theorem Proper.pingRequest (hreads : platform.ReadsBack) (hshort : platform.ShortTexts)
    {dht : MaintainedDht} {next : DhtLoop} {newId : Uuid} {ep : Endpoint}
    {pongHandler timeoutHandler : Handler} (hproper : dht.Proper platform) (hv4 : ep.IsV4)
    (hrequest : dht.loop.pingRequest platform newId ep pongHandler timeoutHandler =
      some next) :
    ({ dht with loop := next } : MaintainedDht).Proper platform := by
  have hissued : newId ∉ dht.loop.issued := (DhtLoop.pingRequest_eq_some platform
    hrequest).1
  rw [DhtLoop.pingRequest, if_neg hissued, RpcManager.pingRequest_eq] at hrequest
  obtain rfl := Option.some.inj hrequest
  refine ⟨hproper.known, ?_, fun id obs hobs =>
    List.mem_cons_of_mem newId (hproper.findNodes id obs hobs), ?_, ?_, ?_⟩
  · intro id obs hobs
    cases KeyedList.find_insert_cases hobs with
    | inl hnew =>
        rw [hnew.2]
        exact hv4
    | inr hold => exact hproper.pings id obs hold
  · intro id found hpending
    refine hproper.found id found ?_
    simpa [Ping.init] using hpending
  · intro out hout
    cases List.mem_append.mp hout with
    | inl hold =>
        exact (hproper.sent out hold).mono (List.subset_cons_self _ _) (List.Subset.refl _)
    | inr hnew =>
        rw [List.mem_singleton.mp hnew]
        exact .ping ep newId hv4 List.mem_cons_self
  · have hcases : ∀ {id dest}, KMessage.PingSent platform (dht.loop.io.sent ++
        [⟨ep, .ofPart "kademlia" (KMessage.pingRequestBody platform newId)⟩]) id dest →
        KMessage.PingSent platform dht.loop.io.sent id dest ∨ id = newId ∧ dest = ep := by
      intro id dest hsent
      refine (List.mem_append.mp hsent).imp_right fun hnew => ?_
      obtain ⟨hdest, hmsg⟩ := Outgoing.mk.inj (List.mem_singleton.mp hnew)
      have hping := KMessage.sound_pingRequestBody hshort id
      rw [KMessage.ofPart_injective hmsg] at hping
      exact ⟨(hping.unique hreads (KMessage.sound_pingRequestBody hshort newId)).2.2, hdest⟩
    intro id first second hfirst hsecond
    rcases hcases hfirst with hold | ⟨rfl, rfl⟩
    · rcases hcases hsecond with holdSecond | ⟨rfl, -⟩
      · exact hproper.once id first second hold holdSecond
      · exact absurd (hproper.issued_of_pingSent hreads hshort hold) hissued
    · rcases hcases hsecond with holdSecond | ⟨-, rfl⟩
      · exact absurd (hproper.issued_of_pingSent hreads hshort holdSecond) hissued
      · rfl

theorem Proper.findNodeRequest (hreads : platform.ReadsBack) (hshort : platform.ShortTexts)
    {dht : MaintainedDht} {next : DhtLoop} {newId : Uuid} {ep : Endpoint}
    {ignoreEps : List Endpoint} {responseHandler : Handler} (hproper : dht.Proper platform)
    (hv4 : ep.IsV4) (hignore : ∀ ignored ∈ ignoreEps, ignored.IsV4)
    (hrequest : dht.loop.findNodeRequest platform newId ep ignoreEps responseHandler =
      some next) :
    ({ dht with loop := next } : MaintainedDht).Proper platform := by
  have hissued : newId ∉ dht.loop.issued := (DhtLoop.findNodeRequest_eq_some platform
    hrequest).1
  rw [DhtLoop.findNodeRequest, if_neg hissued, RpcManager.findNodeRequest_eq] at hrequest
  obtain rfl := Option.some.inj hrequest
  have hping : ∀ {id dest}, KMessage.PingSent platform (dht.loop.io.sent ++
      [⟨ep, .ofPart "kademlia" (KMessage.findNodeRequestBody platform newId ignoreEps)⟩])
        id dest ↔ KMessage.PingSent platform dht.loop.io.sent id dest :=
    KMessage.pingSent_append_iff hreads hshort
      (KMessage.sound_findNodeRequestBody hshort newId hignore) (by decide)
  refine ⟨hproper.known, hproper.pings, ?_, hproper.found, ?_, ?_⟩
  · intro id obs hobs
    rcases KeyedList.find_insert_cases hobs with ⟨hid, rfl⟩ | hold
    · obtain rfl : newId = id := hid
      exact List.mem_cons_self
    · exact List.mem_cons_of_mem newId (hproper.findNodes id obs hold)
  · intro out hout
    cases List.mem_append.mp hout with
    | inl hold =>
        exact (hproper.sent out hold).mono (List.subset_cons_self _ _) (List.Subset.refl _)
    | inr hnew =>
        rw [List.mem_singleton.mp hnew]
        exact .findNode ep newId ignoreEps hv4 hignore List.mem_cons_self
  · intro id first second hfirst hsecond
    exact hproper.once id first second (hping.mp hfirst) (hping.mp hsecond)

/-- The pings and the find_nodes of the maintainer. -/
theorem Proper.sendRefreshPing (hreads : platform.ReadsBack) (hshort : platform.ShortTexts)
    {dht : MaintainedDht} {ids rest : List Uuid} {loop : DhtLoop}
    (hproper : dht.Proper platform)
    (hpings : dht.loop.sendRefreshPing platform ids = some (loop, rest)) :
    ({ dht with loop := loop } : MaintainedDht).Proper platform := by
  rw [DhtLoop.sendRefreshPing_eq] at hpings
  refine Supply.invariant_of_forEach
    (fun state => ({ dht with loop := state } : MaintainedDht).Proper platform)
    (fun id entry hentry state next hstate hping => ?_) hproper hpings
  have hv4 : entry.2.ep.IsV4 := hproper.known entry.2.ep
    ⟨entry.1, entry.2, KRoutingTable.mem_entriesFrom_zero.mp hentry, rfl⟩
  exact hstate.pingRequest hreads hshort hv4 hping

theorem Proper.findNodeFrom (hreads : platform.ReadsBack) (hshort : platform.ShortTexts)
    {dht : MaintainedDht} {requestEps : List Endpoint} {ids rest : List Uuid}
    {loop : DhtLoop} (hproper : dht.Proper platform)
    (hv4 : ∀ ep ∈ requestEps, ep.IsV4)
    (hfinds : dht.loop.findNodeFrom platform requestEps ids = some (loop, rest)) :
    ({ dht with loop := loop } : MaintainedDht).Proper platform :=
  Supply.invariant_of_forEach
    (fun state => ({ dht with loop := state } : MaintainedDht).Proper platform)
    (fun _ ep hep _ _ hstate hfind =>
      hstate.findNodeRequest hreads hshort (hv4 ep hep) hv4 hfind)
    hproper hfinds

/-! ## Callbacks -/

theorem Proper.autoUpdate {dht : MaintainedDht} (hproper : dht.Proper platform)
    {ep : Endpoint} (hv4 : ep.IsV4) :
    ({ dht with loop := dht.loop.withTable (dht.loop.table.autoUpdateEndpoint platform ep) } :
      MaintainedDht).Proper platform := by
  apply hproper.withTable
  intro known hknows
  rw [KRoutingTable.autoUpdateEndpoint_eq_step] at hknows
  cases KRoutingTable.knows_step hknows with
  | inl hold => exact hproper.known known hold
  | inr hnew =>
      rw [hnew]
      exact hv4

/-- The endpoint of a handler gets into the table or is pinged. -/
theorem Proper.invoke (hreads : platform.ReadsBack) (hshort : platform.ShortTexts)
    {dht : MaintainedDht} {next : DhtLoop} {handler : Handler} {ep : Endpoint}
    {newId : Uuid} (hproper : dht.Proper platform) (hv4 : ep.IsV4)
    (hinvoke : dht.loop.invoke platform handler ep newId = some next) :
    ({ dht with loop := next } : MaintainedDht).Proper platform := by
  cases handler with
  | moveBack index kn =>
      obtain rfl := Option.some.inj hinvoke
      apply hproper.withTable
      intro known hknows
      apply hproper.known known (KRoutingTable.knows_setBucket _ hknows)
      intro stored hstored
      rw [KBucket.nodes_moveBack] at hstored
      exact Recency.mem_touch_iff.mp hstored
  | deleteNode index kn =>
      obtain rfl := Option.some.inj hinvoke
      apply hproper.withTable
      intro known hknows
      apply hproper.known known (KRoutingTable.knows_setBucket _ hknows)
      intro stored hstored
      rw [KBucket.nodes_deleteNode] at hstored
      exact Recency.mem_of_mem_forget hstored
  | autoUpdate =>
      obtain rfl := Option.some.inj hinvoke
      exact hproper.autoUpdate hv4
  | null =>
      obtain rfl := Option.some.inj hinvoke
      exact hproper
  | pingFound => exact hproper.pingRequest hreads hshort hv4 hinvoke

theorem quiet_take {loop : DhtLoop} {io : IoContext} {position : ℕ}
    {callback : Callback} (htake : loop.io.take position = some (callback, io)) :
    Quiet loop { loop with io := io } where
  toShrinks := shrinks_take htake
  sentEq := by
    obtain rfl := (IoContext.take_eq_some htake).2
    rfl
  found id ep hpending := by
    rw [IoContext.pending_take htake]
    exact Multiset.mem_cons_of_mem hpending

theorem quiet_timeout (loop : DhtLoop) (obs : Ping) : Quiet loop (loop.timeout obs) where
  toShrinks := shrinks_timeout loop obs
  sentEq := by
    rw [DhtLoop.timeout]
    split <;> rfl
  found id ep hpending := by
    rw [DhtLoop.timeout] at hpending
    split_ifs at hpending
    · exact hpending
    · simpa using hpending

theorem quiet_refreshTick (loop : DhtLoop) : Quiet loop loop.refreshTick where
  toShrinks := shrinks_refreshTick loop
  sentEq := rfl
  found id ep hpending := by simpa [DhtLoop.refreshTick] using hpending

theorem Proper.runCallback (hreads : platform.ReadsBack) (hshort : platform.ShortTexts)
    {dht : MaintainedDht} {next : DhtLoop} {io : IoContext} {position : ℕ} {newId : Uuid}
    {callback : Callback} (hproper : dht.Proper platform)
    (htake : dht.loop.io.take position = some (callback, io))
    (hrun : DhtLoop.runCallback platform { dht.loop with io := io } newId callback =
      some next) : ({ dht with loop := next } : MaintainedDht).Proper platform := by
  have htaken := hproper.of_quiet (quiet_take htake)
  have hlogged : ∀ invocation, ({ dht with
      loop := ({ dht.loop with io := io } : DhtLoop).log invocation } :
        MaintainedDht).Proper platform := fun _ =>
    htaken.of_quiet
      ⟨shrinks_of_eq rfl rfl rfl rfl fun _ hid => hid, rfl, fun _ _ hpending => hpending⟩
  rcases DhtLoop.runCallback_cases platform hrun with
    ⟨obsId, obs, -, -, rfl⟩ | ⟨invocation, handler, ep, hcalls, hinvoke⟩ | ⟨-, rfl⟩
  · exact htaken.of_quiet (quiet_timeout _ obs)
  · refine (hlogged invocation).invoke hreads hshort ?_ hinvoke
    cases hcalls with
    | pong obsId obs hfind => exact hproper.pings obsId obs hfind
    | timeout obsId obs hfind => exact hproper.pings obsId obs hfind
    | response obsId ep obs hfind =>
        have hpending : .responseHandler obsId ep ∈ dht.loop.io.pending := by
          rw [IoContext.pending_take htake]
          exact Multiset.mem_cons_self _ _
        exact hproper.found obsId ep hpending
  · exact htaken.of_quiet (quiet_refreshTick _)

/-! ## Messages -/

/-- The receiver of a well-formed message is found by its rpc and its id. -/
theorem receiver_of_wellFormed {msg : Message} {body : Json} {rpc : KMessage.Rpc}
    {messageType : KMessage.MessageType} {id : Uuid}
    (hmsg : KMessage.WellFormed platform msg body rpc messageType id) (manager : DhtManager) :
    manager.receiver platform msg = some (DhtManager.findReceiver manager.obsStrage id rpc) := by
  simp only [DhtManager.receiver, hmsg.part, Option.bind_some, DhtManager.receiverOf,
    hmsg.getRpc_eq, hmsg.observerId, Fallible.ok_bind]
  rfl

theorem rpc_of_findReceiver {strage : KObserverStrage} {rpc : KMessage.Rpc} {id : Uuid}
    {obs : FindNode} (hreceiver : DhtManager.findReceiver strage id rpc = .findNode obs) :
    rpc = .findNode := by
  cases rpc with
  | ping =>
      cases hfind : strage.pings.find id <;> simp [DhtManager.findReceiver, hfind] at hreceiver
  | findNode => rfl
  | none => cases hreceiver

/-- The endpoints that are read from an answer are IPv4 endpoints, and from a request none
can be read. -/
theorem isV4_of_getFindedEndpoint (hreads : platform.ReadsBack) {body : Json}
    {rpc : KMessage.Rpc} {messageType : KMessage.MessageType} {id : Uuid}
    {findedEps : List Endpoint} (hsound : KMessage.Sound platform body rpc messageType id)
    (hrpc : rpc = .findNode)
    (hfinded : KMessage.getFindedEndpoint platform ⟨body⟩ = .ok findedEps) :
    ∀ ep ∈ findedEps, ep.IsV4 := by
  cases messageType with
  | request =>
      rw [KMessage.getFindedEndpoint, KMessage.getEndpoints, hsound.unanswered rfl,
        Fallible.ok_bind] at hfinded
      cases hfinded
  | response =>
      obtain ⟨eps, hv4, hget⟩ :=
        KMessage.getEndpoints_of_listsEndpoints hreads (hsound.findedEps rfl hrpc)
      rw [KMessage.getFindedEndpoint, hget] at hfinded
      rw [← Except.ok.inj hfinded]
      exact hv4

theorem Proper.answerPing {dht : MaintainedDht} (hproper : dht.Proper platform) (obs : Ping) :
    ({ dht with loop := { dht.loop with
        manager := { dht.loop.manager with obsStrage := dht.loop.strage.answerPing obs.id }
        io := obs.incomeMessage dht.loop.io } } : MaintainedDht).Proper platform where
  known := hproper.known
  pings id found hfound := by
    obtain ⟨old, hold, rfl | rfl⟩ := KeyedList.find_modify_cases Ping.id_answered hfound
    · exact hproper.pings id old hold
    · exact hproper.pings id found hold
  findNodes := hproper.findNodes
  found id ep hpending := by
    refine hproper.found id ep ?_
    simpa [Ping.incomeMessage] using hpending
  sent out hout := (hproper.sent out hout).mono (List.Subset.refl _) (List.Subset.refl _)
  once := hproper.once

theorem Proper.answerFindNode {dht : MaintainedDht} (hproper : dht.Proper platform)
    (obs : FindNode) {findedEps : List Endpoint} (hv4 : ∀ ep ∈ findedEps, ep.IsV4) :
    ({ dht with loop := { dht.loop with
        manager := { dht.loop.manager with obsStrage := dht.loop.strage.answerFindNode obs.id }
        io := obs.postAll dht.loop.io findedEps } } : MaintainedDht).Proper platform where
  known := hproper.known
  pings := hproper.pings
  findNodes id found hfound := by
    rw [FindNode.postAll_eq]
    obtain ⟨old, hold, rfl | rfl⟩ := KeyedList.find_modify_cases FindNode.id_answered hfound
    · exact hproper.findNodes id old hold
    · exact hproper.findNodes id found hold
  found id ep hpending := by
    have hcases : ep ∈ findedEps ∨ .responseHandler id ep ∈ dht.loop.io.pending := by
      rw [FindNode.pending_postAll, Multiset.mem_add, Multiset.mem_coe, List.mem_map] at hpending
      refine hpending.imp_left ?_
      rintro ⟨found, hfound, heq⟩
      rw [← (Callback.responseHandler.inj heq).2]
      exact hfound
    exact hcases.elim (hv4 ep) (hproper.found id ep)
  sent out hout := by
    rw [FindNode.postAll_eq] at hout
    exact (hproper.sent out hout).mono (List.Subset.refl _) (List.Subset.refl _)
  once := by
    rw [FindNode.postAll_eq]
    exact hproper.once

/-- A request is answered to where it came from. -/
theorem Proper.reply (hreads : platform.ReadsBack) (hshort : platform.ShortTexts)
    {dht : MaintainedDht} {arrival : Arrival} {asked body : Json} {rpc : KMessage.Rpc}
    {id : Uuid} {table : KRoutingTable} (hproper : dht.Proper platform)
    (harrival : arrival ∈ dht.arrivals) (hv4 : arrival.ep.IsV4)
    (hpart : arrival.msg.getParam "kademlia" = some asked)
    (hasked : KMessage.Sound platform asked rpc .request id)
    (hbody : KMessage.Sound platform body rpc .response id)
    (htable : ∀ known, table.Knows known → known.IsV4) :
    ({ dht with loop := { dht.loop with
        manager := { dht.loop.manager with routingTable := table }
        io := dht.loop.io.asyncSend arrival.ep "kademlia" body } } :
      MaintainedDht).Proper platform where
  known := htable
  pings := hproper.pings
  findNodes := hproper.findNodes
  found := hproper.found
  sent out hout := by
    cases List.mem_append.mp hout with
    | inl hold => exact (hproper.sent out hold).mono (List.Subset.refl _) (List.Subset.refl _)
    | inr hnew =>
        rw [List.mem_singleton.mp hnew]
        exact .reply arrival asked body rpc id harrival hv4 hpart hasked hbody
  once newId first second hfirst hsecond := by
    have hping : ∀ ep, KMessage.PingSent platform
        (dht.loop.io.sent ++ [⟨arrival.ep, .ofPart "kademlia" body⟩]) newId ep ↔
          KMessage.PingSent platform dht.loop.io.sent newId ep := fun ep =>
      KMessage.pingSent_append_iff hreads hshort hbody (by simp)
    exact hproper.once newId first second ((hping first).mp hfirst) ((hping second).mp hsecond)

/-- A message is noted before it is handled. -/
theorem Proper.receive (hreads : platform.ReadsBack) (hshort : platform.ShortTexts)
    {dht : MaintainedDht} {next : DhtLoop} {msg : Message} {ep : Endpoint}
    {sentBefore : List Outgoing} (hproper : dht.Proper platform)
    (harrival : ⟨msg, ep, sentBefore⟩ ∈ dht.arrivals) (hv4 : ep.IsV4)
    (hsound : KMessage.SoundPart platform msg)
    (hstep : dht.loop.step platform (.receive msg ep) = some next) :
    ({ dht with loop := next } : MaintainedDht).Proper platform := by
  obtain ⟨manager, io, hincome, rfl⟩ := DhtLoop.receive_eq_some platform hstep
  have hnoted : ∀ {loop : DhtLoop}, ({ dht with loop := loop } : MaintainedDht).Proper platform →
      ({ dht with loop := { loop with received := loop.received ++ [msg] } } :
        MaintainedDht).Proper platform := fun hloop =>
    hloop.of_quiet
      ⟨shrinks_of_eq rfl rfl rfl rfl fun _ hid => hid, rfl, fun _ _ hpending => hpending⟩
  cases hpart : msg.getParam "kademlia" with
  | none =>
      simp only [DhtManager.incomeMessage, hpart] at hincome
      obtain ⟨rfl, rfl⟩ := Prod.mk.inj (Fallible.pure_eq_ok.mp hincome)
      exact hnoted hproper
  | some body =>
      obtain ⟨rpc, messageType, id, hbody⟩ := hsound body hpart
      have hmsg := hbody.wellFormed hreads hpart
      obtain ⟨receiver, hreceiver, hresult⟩ := DhtManager.exists_of_incomeMessage hpart hincome
      rw [receiver_of_wellFormed hmsg, Option.some.injEq] at hreceiver
      cases receiver with
      | ping obs =>
          obtain ⟨rfl, rfl⟩ := Prod.mk.inj hresult
          exact hnoted (hproper.answerPing obs)
      | findNode obs =>
          obtain ⟨findedEps, -, hfinded, heq⟩ := hresult
          obtain ⟨rfl, rfl⟩ := Prod.mk.inj heq
          exact hnoted (hproper.answerFindNode obs
            (isV4_of_getFindedEndpoint hreads hbody (rpc_of_findReceiver hreceiver) hfinded))
      | rpcManager =>
          obtain ⟨answer, hanswer, heq⟩ := hresult
          obtain ⟨rfl, rfl⟩ := Prod.mk.inj heq
          cases messageType with
          | response =>
              rw [DhtManager.incomeMessage_of_response hmsg] at hanswer
              obtain rfl := Except.ok.inj hanswer
              exact hnoted hproper
          | request =>
              obtain ⟨table, reply, hreplied, hreply, htable⟩ :=
                RpcManager.exists_reply_of_sound hreads hshort hpart hbody hproper.known
                  dht.loop.io ep
              obtain rfl := Except.ok.inj (hreplied.symm.trans hanswer)
              refine hnoted (hproper.reply hreads hshort harrival hv4 hpart hbody hreply ?_)
              intro known hknows
              cases htable known hknows with
              | inl hold => exact hproper.known known hold
              | inr hnew =>
                  rw [hnew]
                  exact hv4

/-! ## What the node fails on -/

/-- Of the messages of other nodes, the Kademlia layer fails on exactly the find_node
requests under an id that the node waits for itself. -/
theorem receive_eq_none_iff (hreads : platform.ReadsBack) (hshort : platform.ShortTexts)
    {dht : MaintainedDht} (hproper : dht.Proper platform) {msg : Message}
    (hsound : KMessage.SoundPart platform msg) (ep : Endpoint) :
    dht.loop.step platform (.receive msg ep) = none ↔ dht.EchoesFindNode platform msg := by
  have hfails : dht.loop.step platform (.receive msg ep) = none ↔
      ¬ (dht.loop.manager.incomeMessage platform dht.loop.io msg ep).isOk = true := by
    rw [DhtLoop.step]
    cases dht.loop.manager.incomeMessage platform dht.loop.io msg ep with
    | error fault => simp
    | ok result => simp
  rw [hfails]
  cases hpart : msg.getParam "kademlia" with
  | none =>
      refine iff_of_false ?_ ?_
      · rw [DhtManager.incomeMessage, hpart, not_not]
        rfl
      · rintro ⟨body, id, hother, -⟩
        rw [hpart] at hother
        cases hother
  | some body =>
      obtain ⟨rpc, messageType, id, hbody⟩ := hsound body hpart
      have hmsg := hbody.wellFormed hreads hpart
      have hechoes : dht.EchoesFindNode platform msg ↔
          rpc = .findNode ∧ messageType = .request ∧ dht.loop.strage.Awaits id rpc := by
        constructor
        · rintro ⟨other, otherId, hother, hrequest, hstored⟩
          obtain rfl := Option.some.inj (hpart.symm.trans hother)
          obtain ⟨rfl, rfl, rfl⟩ := hbody.unique hreads hrequest
          exact ⟨rfl, rfl, hstored⟩
        · rintro ⟨rfl, rfl, hawaits⟩
          exact ⟨body, id, hpart, hbody, hawaits⟩
      rw [hechoes]
      by_cases hawaits : dht.loop.strage.Awaits id rpc
      · cases rpc with
        | none => exact absurd rfl hbody.rpcNamed
        | ping =>
            obtain ⟨obs, hfind⟩ := Option.isSome_iff_exists.mp hawaits
            have hstored : dht.loop.manager.obsStrage.pings.find id = some obs := hfind
            refine iff_of_false ?_ (by simp)
            simp [DhtManager.incomeMessage, hpart, DhtManager.receiverOf, hmsg.getRpc_eq,
              hmsg.observerId, DhtManager.findReceiver, hstored]
        | findNode =>
            obtain ⟨obs, hfind⟩ := Option.isSome_iff_exists.mp hawaits
            have hstored : dht.loop.manager.obsStrage.findNodes.find id = some obs := hfind
            have hhandled : (dht.loop.manager.incomeMessage platform dht.loop.io msg ep).isOk =
                (KMessage.getFindedEndpoint platform ⟨body⟩).isOk := by
              simp only [DhtManager.incomeMessage, hpart, DhtManager.receiverOf,
                hmsg.getRpc_eq, hmsg.observerId, Fallible.ok_bind, pure_bind,
                DhtManager.findReceiver, hstored, Option.map_some, Option.getD_some]
              rw [Fallible.isOk_bind_of_forall fun _ => rfl,
                DhtManager.isOk_findNodeIncomeMessage hpart]
            rw [hhandled]
            cases messageType with
            | request =>
                refine iff_of_true ?_ ⟨rfl, rfl, hawaits⟩
                rw [KMessage.getFindedEndpoint, KMessage.getEndpoints, hbody.unanswered rfl]
                simp [Json.getStrings]
            | response =>
                obtain ⟨eps, -, hget⟩ :=
                  KMessage.getEndpoints_of_listsEndpoints hreads (hbody.findedEps rfl rfl)
                refine iff_of_false ?_ (by simp)
                rw [KMessage.getFindedEndpoint, hget, not_not]
                rfl
      · refine iff_of_false ?_ fun hecho => hawaits hecho.2.2
        rw [DhtManager.incomeMessage_of_not_awaits hmsg hawaits, not_not]
        cases messageType with
        | response =>
            rw [DhtManager.incomeMessage_of_response hmsg]
            rfl
        | request =>
            obtain ⟨next, reply, hreplied, -⟩ :=
              RpcManager.exists_reply_of_sound hreads hshort hpart hbody hproper.known
                dht.loop.io ep
            have htable : dht.loop.manager.routingTable = dht.loop.table := rfl
            rw [htable, hreplied]
            rfl

/-! ## Runs -/

theorem Proper.tick (hreads : platform.ReadsBack) (hshort : platform.ShortTexts)
    {dht next : MaintainedDht} {ids : List Uuid} (hproper : dht.Proper platform)
    (htick : dht.tick platform ids = some next) : next.Proper platform := by
  rw [MaintainedDht.tick] at htick
  split_ifs at htick
  · obtain ⟨rest, hpings, rfl⟩ := Option.map_eq_some_iff.mp htick
    exact (hproper.sendRefreshPing hreads hshort hpings).of_eq rfl (List.Subset.refl _)
  · obtain rfl := Option.some.inj htick
    exact hproper

theorem Proper.tickDone {dht : MaintainedDht} (hproper : dht.Proper platform) :
    dht.tickDone.Proper platform := by
  simp only [MaintainedDht.tickDone]
  split_ifs
  · exact hproper.of_eq rfl (List.Subset.refl _)
  · exact hproper.of_eq rfl (List.Subset.refl _)
  · exact hproper

theorem Proper.getRemoteNodes (hreads : platform.ReadsBack) (hshort : platform.ShortTexts)
    {dht next : MaintainedDht} {ids : List Uuid} (hproper : dht.Proper platform)
    (hremote : dht.getRemoteNodes platform ids = some next) : next.Proper platform := by
  rw [MaintainedDht.getRemoteNodes] at hremote
  split_ifs at hremote
  · obtain ⟨rest, hfinds, rfl⟩ := Option.map_eq_some_iff.mp hremote
    have hv4 : ∀ ep ∈ dht.loop.table.collectEndpoint platform .unspecified 5 [], ep.IsV4 :=
      fun ep hep => hproper.known ep (KRoutingTable.mem_collectEndpoint hep).1
    exact (hproper.findNodeFrom hreads hshort hv4 hfinds).tickDone
  · obtain rfl := Option.some.inj hremote
    exact hproper.tickDone

theorem proper_step (hreads : platform.ReadsBack) (hshort : platform.ShortTexts)
    {dht next : MaintainedDht} {event : Event} (hproper : dht.Proper platform)
    (hadmits : Admits platform event) (hstep : dht.step platform event = some next) :
    next.Proper platform := by
  cases event with
  | receive msg ep =>
      have hnoted : ({ dht with arrivals := dht.arrivals ++ [⟨msg, ep, dht.loop.io.sent⟩] } :
          MaintainedDht).Proper platform := hproper.of_eq rfl (List.subset_append_left _ _)
      obtain rfl := Option.some.inj hstep
      cases hreceive : ({ dht with
          arrivals := dht.arrivals ++ [⟨msg, ep, dht.loop.io.sent⟩] } :
            MaintainedDht).loopStep platform (.receive msg ep) with
      | none => exact hnoted
      | some next =>
          obtain ⟨loop, hloop, rfl⟩ := loopStep_eq_some platform hreceive
          exact hnoted.receive hreads hshort
            (List.mem_append_right _ (List.mem_singleton_self _)) hadmits.1 hadmits.2 hloop
  | autoUpdate ep =>
      obtain rfl := Option.some.inj hstep
      exact (hproper.autoUpdate hadmits).of_eq rfl (List.Subset.refl _)
  | autoUpdateBatch eps =>
      obtain rfl := Option.some.inj hstep
      have htable : ∀ known, (dht.loop.table.autoUpdateBatch platform eps).Knows known →
          known.IsV4 := fun known hknows =>
        (KRoutingTable.knows_autoUpdateBatch hknows).elim (hproper.known known) (hadmits known)
      exact (hproper.withTable htable).of_eq rfl (List.Subset.refl _)
  | updateGlobalSelfEndpoint ep =>
      obtain ⟨loop, hloop, rfl⟩ := loopStep_eq_some platform hstep
      obtain rfl := Option.some.inj hloop
      exact hproper.of_quiet
        ⟨shrinks_of_eq rfl rfl rfl rfl fun _ hid => hid, rfl, fun _ _ hpending => hpending⟩
  | start ids =>
      have hstarted : ({ dht with requiresTick := true } : MaintainedDht).Proper platform :=
        hproper.of_eq rfl (List.Subset.refl _)
      exact hstarted.tick hreads hshort hstep
  | stop =>
      obtain rfl := Option.some.inj hstep
      exact hproper.of_eq rfl (List.Subset.refl _)
  | advance seconds =>
      obtain ⟨loop, hloop, rfl⟩ := loopStep_eq_some platform hstep
      obtain rfl := Option.some.inj hloop
      exact hproper.of_quiet
        ⟨shrinks_of_eq rfl rfl rfl rfl fun _ hid => hid, rfl, fun _ _ hpending => hpending⟩
  | expire position =>
      obtain ⟨loop, hloop, rfl⟩ := loopStep_eq_some platform hstep
      obtain ⟨io, hexpire, rfl⟩ := Option.map_eq_some_iff.mp hloop
      have hpending := IoContext.pending_expire hexpire
      have hsent : io.sent = dht.loop.io.sent := by
        obtain ⟨wait, -, rfl⟩ := IoContext.expire_eq_some hexpire
        rfl
      exact hproper.of_quiet
        ⟨shrinks_of_eq rfl rfl hsent rfl fun _ hid => hpending ▸ hid, hsent,
          fun _ _ hfound => hpending ▸ hfound⟩
  | run position id =>
      obtain ⟨loop, hloop, rfl⟩ := loopStep_eq_some platform hstep
      obtain ⟨⟨callback, io⟩, htake, hrun⟩ := Option.bind_eq_some_iff.mp hloop
      exact hproper.runCallback hreads hshort htake hrun
  | expireTimer position =>
      obtain ⟨wait, -, hwait⟩ := Option.bind_eq_some_iff.mp hstep
      split_ifs at hwait
      obtain rfl := Option.some.inj hwait
      exact hproper.of_eq rfl (List.Subset.refl _)
  | runTask position ids =>
      obtain ⟨task, -, htask⟩ := Option.bind_eq_some_iff.mp hstep
      have htaken : ({ dht with ready := dht.ready.eraseIdx position } :
          MaintainedDht).Proper platform := hproper.of_eq rfl (List.Subset.refl _)
      cases task with
      | tick => exact htaken.tick hreads hshort htask
      | getRemoteNodes => exact htaken.getRemoteNodes hreads hshort htask

theorem proper_make (ep : Endpoint) (now : ℕ) : (make platform ep now).Proper platform where
  known known hknows := absurd hknows (KRoutingTable.not_knows_empty _ known)
  pings id obs hobs := by cases hobs
  findNodes id obs hobs := by cases hobs
  found id ep hpending := by simp [make, DhtLoop.start] at hpending
  sent out hout := by cases hout
  once id first second hfirst := by cases hfirst

end MaintainedDht

end SsP2p.Kademlia

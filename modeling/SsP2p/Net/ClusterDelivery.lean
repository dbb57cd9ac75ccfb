import SsP2p.Net.ClusterSafety
import SsP2p.Net.NodeInbox

/-!
# Texts from one application to another

Where the applications do what `Admits` says, whatever the application of a node gets was sent
to that node, and a text among it was passed to `peer::send` for that node by another
application.  A text that makes a datagram and is sent to a known node can be delivered at any
later time to a node that was started and runs, and then waits for the next peer that is made.
-/

namespace SsP2p.Net

open Ice Kademlia

variable {platform : Platform}

namespace NodeLoop

/-- A text for a known node is sent at once. -/
theorem mem_sent_of_send {node next : NodeLoop platform} {ep : Endpoint} {text : String}
    {id : Uuid} (hknown : node.ice.table.isExistEndpoint platform ep = true)
    (hsend : node.send ep text id = some next) :
    ⟨ep, .ofPart "messenger" (.string text)⟩ ∈ next.sent := by
  obtain ⟨ice, hice, rfl⟩ := iceAgent_eq_some hsend
  obtain ⟨-, rfl⟩ := IceLoop.of_step_signalingSend hice
  have hdirect : SignalingServer.signalingSend platform node.ice.agent.selfEp node.ice.table
      node.ice.strage node.ice.io id ep "messenger" (.string text) =
        (node.ice.strage, node.ice.io.asyncSend ep "messenger" (.string text)) := by
    rw [SignalingServer.signalingSend, if_pos hknown]
  refine List.mem_append_right _ ?_
  simp only [IceLoop.signalingSend, hdirect]
  exact List.mem_append_right _ (List.mem_singleton_self _)

theorem exists_msgPool_storeMessage {draws : Draws} {msg : Message} {ep : Endpoint}
    (hice : msg.isContainParam "ice_agent" = false) (node : NodeLoop platform) :
    ∃ time, (node.storeMessage draws msg ep).msgPool =
      { node.msgPool with
        pool := MessagePool.storeEntry node.msgPool.pool time draws.messageId draws.usage msg ep
        handled := node.msgPool.handled ++ if node.msgPool.isActive then
          [SsMessage.make ⟨draws.messageId, msg, time⟩ ep] else [] } := by
  rw [storeMessage, if_neg (Bool.eq_false_iff.mp hice), MessagePool.store_eq]
  exact ⟨_, rfl⟩

/-- What the handler of a message without an ICE part leaves of the pool when it returns. -/
theorem exists_msgPool_onReceivePacket {node : NodeLoop platform} {draws : Draws}
    {raw : List UInt8} {msg : Message} {ep : Endpoint}
    (hdecode : Message.decode platform raw = .ok msg)
    (hice : msg.isContainParam "ice_agent" = false)
    (hreturns : (node.onReceivePacket draws raw ep).isCrashed = false) :
    ∃ time, (node.onReceivePacket draws raw ep).msgPool =
      { node.msgPool with
        pool := MessagePool.storeEntry node.msgPool.pool time draws.messageId draws.usage msg ep
        handled := node.msgPool.handled ++ if node.msgPool.isActive then
          [SsMessage.make ⟨draws.messageId, msg, time⟩ ep] else [] } := by
  have hkept : (andThen (incomeIceAgent draws msg ep) (node.incomeKademlia msg ep)).msgPool =
      node.msgPool := by
    rw [andThen, incomeIceAgent]
    split_ifs
    · rfl
    · split <;> rfl
  rw [onReceivePacket_of_decode hdecode, andThen] at hreturns ⊢
  by_cases hraised : (andThen (incomeIceAgent draws msg ep)
      (node.incomeKademlia msg ep)).isCrashed = true
  · rw [if_pos hraised, hraised] at hreturns
    cases hreturns
  · rw [if_neg hraised, ← hkept]
    exact exists_msgPool_storeMessage hice _

/-- The handler draws one id at most. -/
theorem issued_onReceivePacket {node : NodeLoop platform} {draws : Draws} {raw : List UInt8}
    {msg : Message} {ep : Endpoint} (hdecode : Message.decode platform raw = .ok msg)
    {id : Uuid} (hissued : id ∈ (node.onReceivePacket draws raw ep).issued) :
    id ∈ node.issued ∨ id = draws.observerId := by
  have hfirst : (node.incomeKademlia msg ep).issued = node.issued := by
    obtain ⟨dht, hdht, hincome⟩ := node.exists_incomeKademlia msg ep
    have hdraws : dht.loop.issued = node.dht.loop.issued := by
      obtain rfl := Option.some.inj hdht
      cases hreceive : ({ node.dht with
          arrivals := node.dht.arrivals ++ [⟨msg, ep, node.dht.loop.io.sent⟩] } :
            MaintainedDht).loopStep platform (.receive msg ep) with
      | none => rfl
      | some next =>
          obtain ⟨loop, hloop, rfl⟩ := MaintainedDht.loopStep_eq_some platform hreceive
          obtain ⟨manager, io, -, rfl⟩ := DhtLoop.receive_eq_some platform hloop
          rfl
    rw [hincome, issued, hdraws, issued]
  have hsecond : ∀ first : NodeLoop platform,
      id ∈ (andThen (incomeIceAgent draws msg ep) first).issued →
        id ∈ first.issued ∨ id = draws.observerId := by
    intro first hid
    rw [andThen, incomeIceAgent] at hid
    split_ifs at hid
    · exact Or.inl hid
    · split at hid
      · exact Or.inl hid
      · next ice hreceive =>
          obtain ⟨result, -, rfl⟩ := IceLoop.receive_eq_some hreceive
          rcases List.mem_append.mp hid with hdht | hice
          · exact Or.inl (List.mem_append_left _ hdht)
          · rcases List.mem_cons.mp hice with rfl | hold
            · exact Or.inr rfl
            · exact Or.inl (List.mem_append_right _ hold)
  rw [onReceivePacket_of_decode hdecode] at hissued
  have hstored : id ∈ (andThen (incomeIceAgent draws msg ep)
      (node.incomeKademlia msg ep)).issued := by
    rw [andThen] at hissued
    split_ifs at hissued
    · exact hissued
    · obtain ⟨msgPool, hstore⟩ := exists_storeMessage draws msg ep
        (andThen (incomeIceAgent draws msg ep) (node.incomeKademlia msg ep))
      rw [hstore] at hissued
      exact hissued
  rw [← hfirst]
  exact hsecond _ hstored

end NodeLoop

namespace Cluster

/-- The message was sent to the node at `dest` as it is, and a text in it was meant for that
node. -/
def Genuine (cluster : Cluster platform) (dest : V4Endpoint) (msg : Message) : Prop :=
  ∃ src, ∃ out ∈ (cluster.node src).sent, out.dest = dest.val ∧ msg = out.msg.ordered ∧
    ∀ payload, msg.getParam "messenger" = some payload →
      ∃ text, payload = .string text ∧ (dest.val, text) ∈ (cluster.node src).given

def Authentic (cluster : Cluster platform) : Prop :=
  ∀ ep, (∀ msg ∈ (cluster.node ep).returned, cluster.Genuine ep msg.body) ∧
    ∀ msg ∈ (cluster.node ep).msgPool.handled, cluster.Genuine ep msg.body

variable {naming : Naming}

theorem Proper.genuine (hshort : platform.ShortTexts) {cluster : Cluster platform}
    (hproper : cluster.Proper naming) {ep : V4Endpoint} {pid : PeerId} {msg : Message}
    (harrived : NodeLoop.HasArrived platform (cluster.node ep).dht.arrivals pid msg) :
    cluster.Genuine ep msg := by
  obtain ⟨arrival, harrival, rfl, -⟩ := harrived
  obtain ⟨src, out, hout, hdest, -, hmsg⟩ := (hproper.arrivals ep arrival harrival).sent
  refine ⟨src, out, hout, hdest, hmsg, fun payload hpayload => ?_⟩
  rw [hmsg, Message.getParam_ordered, Option.map_eq_some_iff] at hpayload
  obtain ⟨sent, hsent, rfl⟩ := hpayload
  obtain ⟨text, rfl, hgiven⟩ :=
    ((hproper.nodes src).writes hshort hout).given_of_messenger hsent
  rw [hdest] at hgiven
  exact ⟨text, Json.ordered_string text, hgiven⟩

theorem inbox_moves {cluster : Cluster platform} {event : Event} {ep : V4Endpoint}
    {after : NodeLoop platform} (hinbox : (cluster.node ep).Inbox)
    (hmoves : cluster.Moves event ep after) : after.Inbox := by
  cases hmoves with
  | act _ event after hstep => exact hinbox.step hstep
  | deliver src _ shown position draws out made hout hdest hshown hmade hruns =>
      cases hdecode : Message.decode platform made.payload with
      | ok msg => exact hinbox.onReceivePacket hdecode
      | error fault =>
          rw [NodeLoop.onReceivePacket, hdecode]
          exact hinbox.of_eq (List.Subset.refl _) rfl rfl rfl rfl

theorem inbox_step {cluster next : Cluster platform} {event : Event}
    (hinbox : ∀ ep, (cluster.node ep).Inbox) (hstep : cluster.step event = some next)
    (ep : V4Endpoint) : (next.node ep).Inbox := by
  obtain ⟨moved, after, hsteps⟩ := exists_steps hstep
  exact hsteps.forall_node (P := fun _ node => node.Inbox)
    (inbox_moves (hinbox moved) hsteps.moves) (fun other _ => hinbox other) ep

/-- In every run in which the applications use IPv4 endpoints and texts that can be
encoded, no application is given a message that was not sent to it, or a text that no
application has meant for it. -/
theorem throughout_authentic (hreads : platform.ReadsBack) (hbson : platform.ReadsBson)
    (hshort : platform.ShortTexts) (now : ℕ) (events : List Event)
    (hadmits : ∀ event ∈ events, Admits .anyV4 event) :
    Runs.Throughout step Authentic (start now : Cluster platform) events := by
  apply Runs.throughout_of_meets fun cluster : Cluster platform =>
    cluster.Proper .anyV4 ∧ ∀ ep, (cluster.node ep).Inbox
  · exact fun cluster event next hboth hadmits hstep =>
      ⟨proper_step hreads hbson hshort hboth.1 hadmits hstep, inbox_step hboth.2 hstep⟩
  · intro cluster hboth ep
    exact ⟨fun msg hmsg => hboth.1.genuine hshort ((hboth.2 ep).returned msg hmsg),
      fun msg hmsg => hboth.1.genuine hshort ((hboth.2 ep).handled msg hmsg)⟩
  · exact ⟨proper_start .anyV4 now, fun ep => NodeLoop.inbox_make ep.val now⟩
  · exact Runs.meets_of_forall (fun event hevent _ => hadmits event hevent) _

theorem throughout_authentic_greet :
    Runs.Throughout step Authentic (start 0 : Cluster bsonPlatform) greet :=
  throughout_authentic readsBack_bsonPlatform readsBson_bsonPlatform shortTexts_bsonPlatform 0
    greet admits_greet

/-! ## A text that is sent can be delivered -/

/-- A run keeps what was sent. -/
theorem grows_of_execute (hreads : platform.ReadsBack) (hbson : platform.ReadsBson)
    (hshort : platform.ShortTexts) {cluster last : Cluster platform} {events : List Event}
    (hproper : cluster.Proper naming) (hadmits : ∀ event ∈ events, Admits naming event)
    (hrun : Runs.execute step cluster events = some last) :
    last.Proper naming ∧ cluster.Grows last := by
  refine Runs.invariant_of_meets (fun state => state.Proper naming ∧ cluster.Grows state) ?_
    ⟨hproper, fun _ => List.Subset.refl _⟩
    (Runs.meets_of_forall (fun event hevent _ => hadmits event hevent) cluster) hrun
  rintro state event next ⟨hstate, hgrows⟩ hadmitted hstep
  obtain ⟨ep, after, hsteps⟩ := exists_steps hstep
  obtain ⟨-, -, added, hextends, -⟩ := hstate.moves hreads hbson hshort hadmitted hsteps.moves
  have hnext := hsteps.grows hextends.sent
  exact ⟨proper_step hreads hbson hshort hstate hadmitted hstep,
    fun other => List.Subset.trans (hgrows other) (hnext other)⟩

/-- A datagram can be delivered to a node that was started and runs, with an id that is
new. -/
theorem Proper.exists_deliver (hbson : platform.ReadsBson) (hshort : platform.ShortTexts)
    {cluster : Cluster platform} (hproper : cluster.Proper naming) {src dest : V4Endpoint}
    {out : Outgoing} (hout : out ∈ (cluster.node src).sent) (hdest : out.dest = dest.val)
    (hfits : (datagram src out).isSome = true)
    (hruns : (cluster.node dest).isCrashed = false)
    (hstarted : (cluster.node dest).isStarted = true)
    (hopen : (cluster.node dest).isStopped = false) {draws : Draws}
    (hdraws : draws.observerId ∉ cluster.drawn) :
    ∃ position raw next, Message.decode platform raw = .ok out.msg.ordered ∧
      cluster.step (.deliver src dest src position draws) = some next ∧
      next.node dest = (cluster.node dest).onReceivePacket draws raw src.val := by
  obtain ⟨position, hposition⟩ := List.mem_iff_getElem?.mp hout
  obtain ⟨raw, hraw, hdecode⟩ := hproper.exists_decode hbson hshort hout
  obtain ⟨made, hmade⟩ := Option.isSome_iff_exists.mp hfits
  obtain rfl : raw = made.payload := Except.ok.inj (hraw.symm.trans (datagram_eq_some hmade))
  have hnew : draws.observerId ∉ (cluster.node dest).ice.issued := fun hissued =>
    hdraws (hproper.drawn dest (List.mem_append_right _ hissued))
  have harrives : (cluster.node dest).arrive draws made src.val =
      some ((cluster.node dest).onReceivePacket draws made.payload src.val) := by
    rw [NodeLoop.arrive, if_neg]
    simp [hruns, hstarted, hopen, hnew]
  have hfresh : (newlyDrawn (cluster.node dest)
      ((cluster.node dest).onReceivePacket draws made.payload src.val)).all
        (· ∉ cluster.drawn) := by
    rw [List.all_eq_true]
    intro id hid
    apply decide_eq_true
    obtain ⟨hissued, hnotOwn⟩ := List.mem_filter.mp hid
    rw [(NodeLoop.issued_onReceivePacket hdecode hissued).resolve_left
      (of_decide_eq_true hnotOwn)]
    exact hdraws
  obtain ⟨next, hput, hnode⟩ : ∃ next, cluster.put dest
      ((cluster.node dest).onReceivePacket draws made.payload src.val) = some next ∧
        next.node dest = (cluster.node dest).onReceivePacket draws made.payload src.val :=
    ⟨_, if_pos hfresh, Function.update_self ..⟩
  refine ⟨position, made.payload, next, hdecode, ?_, hnode⟩
  rw [step, hposition, Option.bind_some, if_pos ⟨hdest, out, hout, hdest, hfits⟩, hmade,
    Option.bind_some, harrives, Option.bind_some]
  exact hput

/-- A text that makes a datagram and is sent to a node that the sender knows can be delivered
in every state that any run leads to, as long as the receiver was started and runs.  It is then
the last message that a new peer of the sender gets, and the hub hands it over if it is
active. -/
theorem exists_delivery (hreads : platform.ReadsBack) (hbson : platform.ReadsBson)
    (hshort : platform.ShortTexts) (now : ℕ) {before after : List Event}
    {cluster later : Cluster platform} {src dest : V4Endpoint} {position : ℕ} {peer : Peer}
    {text : String} {id : Uuid} {draws : Draws}
    (hadmits : ∀ event ∈ before ++ .act src (.send position text id) :: after,
      Admits .anyV4 event)
    (hbefore : Runs.execute step (start now) before = some cluster)
    (hafter : Runs.execute step cluster (.act src (.send position text id) :: after) =
      some later)
    (hpeer : (cluster.node src).peers[position]? = some peer) (hep : peer.ep = dest.val)
    (hknown : (cluster.node src).dht.loop.table.isExistEndpoint platform dest.val = true)
    (hfits : (datagram src ⟨dest.val, .ofPart "messenger" (.string text)⟩).isSome = true)
    (hne : src ≠ dest) (hruns : (later.node dest).isCrashed = false)
    (hstarted : (later.node dest).isStarted = true)
    (hopen : (later.node dest).isStopped = false) (hdraws : draws.observerId ∉ later.drawn) :
    ∃ place next received, later.step (.deliver src dest src place draws) = some next ∧
      received.msg.getParam "messenger" = some (.string text) ∧
      (Peer.ofPool (next.node dest).msgPool src.val).queue =
        (Peer.ofPool (later.node dest).msgPool src.val).queue ++ [received] ∧
      (next.node dest).msgPool.handled = (later.node dest).msgPool.handled ++
        if (later.node dest).msgPool.isActive then [SsMessage.make received src.val]
        else [] := by
  obtain ⟨hproper, -⟩ := grows_of_execute hreads hbson hshort (proper_start .anyV4 now)
    (fun event hevent => hadmits event (List.mem_append_left _ hevent)) hbefore
  obtain ⟨sending, hsend, hrest⟩ := Runs.execute_cons_eq_some.mp hafter
  have hadmitsSend := hadmits _ (List.mem_append_right _ List.mem_cons_self)
  have hsending := proper_step hreads hbson hshort hproper hadmitsSend hsend
  obtain ⟨hlater, hgrows⟩ := grows_of_execute hreads hbson hshort hsending
    (fun event hevent => hadmits event (List.mem_append_right _
      (List.mem_cons_of_mem _ hevent))) hrest
  have hsent : ⟨dest.val, .ofPart "messenger" (.string text)⟩ ∈ (sending.node src).sent := by
    obtain ⟨node, hnode, hput⟩ := Option.bind_eq_some_iff.mp hsend
    obtain ⟨-, rfl⟩ := put_eq_some hput
    obtain ⟨other, hother, hgave⟩ :=
      Option.bind_eq_some_iff.mp (NodeLoop.act_of_step hnode).2
    obtain rfl := Option.some.inj (hpeer.symm.trans hother)
    rw [hep] at hgave
    have htable : (cluster.node src).ice.table = (cluster.node src).dht.loop.table :=
      (hproper.nodes src).table
    have hmem := NodeLoop.mem_sent_of_send (by rw [htable]; exact hknown) hgave
    simpa using hmem
  have hout := hgrows src hsent
  obtain ⟨place, raw, next, hdecode, hstep, hnode⟩ :=
    hlater.exists_deliver hbson hshort hout rfl hfits hruns hstarted hopen hdraws
  have hreturns : ((later.node dest).onReceivePacket draws raw src.val).isCrashed = false :=
    Bool.eq_false_of_not_eq_true fun hcrashed =>
      hne (hlater.eq_of_isCrashed hreads hshort hout hdecode src hcrashed)
  have hpart : ∀ param, (Message.ofPart "messenger" (.string text)).ordered.getParam param =
      ((Message.ofPart "messenger" (.string text)).getParam param).map Json.ordered :=
    Message.getParam_ordered _
  have hice : (Message.ofPart "messenger" (.string text)).ordered.isContainParam "ice_agent" =
      false := by
    rw [Message.isContainParam, hpart,
      Message.getParam_ofPart_of_ne (by decide) (by decide)]
    rfl
  obtain ⟨time, hpool⟩ := NodeLoop.exists_msgPool_onReceivePacket hdecode hice hreturns
  refine ⟨place, next, ⟨draws.messageId, (Message.ofPart "messenger" (.string text)).ordered,
    time⟩, hstep, ?_, ?_, ?_⟩
  · rw [hpart, Message.getParam_ofPart, Option.map_some, Json.ordered_string]
  · rw [hnode, hpool, Peer.queue_ofPool_storeEntry, if_pos rfl]
  · rw [hnode, hpool]

/-- What node 2 draws when the greeting arrives. -/
def firstDraws : Draws := ⟨2, 3, 0⟩

/-- The state before the greeting is sent, and the one right after it, are as they should
be. -/
def CanGreet (cluster later : Cluster bsonPlatform) : Prop :=
  (cluster.node (v4At 1)).peers[0]?.map Peer.ep = some (v4At 2).val ∧
    (cluster.node (v4At 1)).dht.loop.table.isExistEndpoint bsonPlatform (v4At 2).val = true ∧
    (later.node (v4At 2)).isCrashed = false ∧ (later.node (v4At 2)).isStarted = true ∧
    (later.node (v4At 2)).isStopped = false ∧ firstDraws.observerId ∉ later.drawn

instance (cluster later : Cluster bsonPlatform) : Decidable (CanGreet cluster later) :=
  inferInstanceAs (Decidable (_ ∧ _ ∧ _ ∧ _ ∧ _ ∧ _))

theorem exists_delivery_greet : ∃ later next : Cluster bsonPlatform, ∃ place received,
    later.step (.deliver (v4At 1) (v4At 2) (v4At 1) place firstDraws) = some next ∧
      received.msg.getParam "messenger" = some (.string "hello") ∧
      (Peer.ofPool (next.node (v4At 2)).msgPool (v4At 1).val).queue =
        (Peer.ofPool (later.node (v4At 2)).msgPool (v4At 1).val).queue ++ [received] := by
  have hgreets : (Runs.execute step (start 0 : Cluster bsonPlatform) introduce).any
      (fun cluster => (Runs.execute step cluster
        [.act (v4At 1) (.send 0 "hello" 1)]).any (CanGreet cluster ·)) = true := by
    decide +kernel
  obtain ⟨cluster, hbefore, hgreets⟩ := (Option.any_eq_true _ _).mp hgreets
  obtain ⟨later, hafter, hcan⟩ := (Option.any_eq_true _ _).mp hgreets
  obtain ⟨hpeers, hknown, hruns, hstarted, hopen, hdraws⟩ := of_decide_eq_true hcan
  have hfits : (datagram (v4At 1)
      ⟨(v4At 2).val, .ofPart "messenger" (.string "hello")⟩).isSome = true := by
    decide +kernel
  obtain ⟨peer, hpeer, hep⟩ := Option.map_eq_some_iff.mp hpeers
  obtain ⟨place, next, received, hstep, hmsg, hqueue, -⟩ :=
    exists_delivery readsBack_bsonPlatform readsBson_bsonPlatform shortTexts_bsonPlatform 0
      (fun event hevent => admits_greet event (List.mem_append.mpr
        ((List.mem_append.mp hevent).imp_right fun hmem => by
          rw [List.mem_singleton.mp hmem]
          exact List.mem_cons_self)))
      hbefore hafter hpeer hep hknown hfits (by decide) hruns hstarted hopen hdraws
  exact ⟨later, next, place, received, hstep, hmsg, hqueue⟩

end Cluster

end SsP2p.Net

import SsP2p.Net.NodeLoop

/-!
# What a node only adds to

No step of a node takes back what it has sent, what it was given to send, or an id that it
has drawn, and messages are noted as they arrive.
-/

namespace SsP2p.Net

open Ice Kademlia

namespace NodeLoop

variable {platform : Platform}

structure Extends (node next : NodeLoop platform) (added : List Arrival) : Prop where
  dht : MaintainedDht.Extends node.dht next.dht added
  ice : IceLoop.Extends node.ice next.ice
  answers : node.answers <+: next.answers
  given : node.given <+: next.given

theorem Extends.refl (node : NodeLoop platform) : Extends node node [] :=
  ⟨MaintainedDht.extends_of_loop (DhtLoop.Extends.refl _) rfl, IceLoop.Extends.refl _,
    List.prefix_refl _, List.prefix_refl _⟩

theorem Extends.trans {node middle next : NodeLoop platform} {added : List Arrival}
    (hfirst : Extends node middle added) (hsecond : Extends middle next []) :
    Extends node next added :=
  ⟨hfirst.dht.trans hsecond.dht, hfirst.ice.trans hsecond.ice,
    hfirst.answers.trans hsecond.answers, hfirst.given.trans hsecond.given⟩

theorem Extends.sent {node next : NodeLoop platform} {added : List Arrival}
    (hextends : Extends node next added) : node.sent ⊆ next.sent := by
  intro out hout
  refine List.mem_append.mpr ((List.mem_append.mp hout).imp ?_ ?_)
  · exact fun hanswer => hextends.answers.subset hanswer
  · exact fun hsent => hextends.ice.sent.subset hsent

theorem Extends.issued {node next : NodeLoop platform} {added : List Arrival}
    (hextends : Extends node next added) : node.issued ⊆ next.issued := by
  intro id hid
  refine List.mem_append.mpr ((List.mem_append.mp hid).imp ?_ ?_)
  · exact fun hdrawn => hextends.dht.loop.issued hdrawn
  · exact fun hdrawn => hextends.ice.issued hdrawn

/-! ## The two layers -/

theorem extends_signal {id : Uuid} {request : Outgoing} {ice next : IceLoop}
    (hsignal : signal platform id request ice = some next) : IceLoop.Extends ice next := by
  obtain ⟨payload, -, hstep⟩ := Option.bind_eq_some_iff.mp hsignal
  exact IceLoop.extends_step hstep

theorem kademlia_eq_some {node next : NodeLoop platform} {event : MaintainedDht.Event}
    {drawn : List Uuid} (hstep : node.kademlia event drawn = some next) :
    ∃ dht ice rest, node.dht.step platform event = some dht ∧
      Supply.forEach (signal platform) (sentSince node.dht dht) drawn
        { node.ice with table := dht.loop.table } = some (ice, rest) ∧
      next = { node with dht := dht, ice := ice } := by
  obtain ⟨dht, hdht, hsignals⟩ := Option.bind_eq_some_iff.mp hstep
  obtain ⟨⟨ice, rest⟩, heach, rfl⟩ := Option.map_eq_some_iff.mp hsignals
  exact ⟨dht, ice, rest, hdht, heach, rfl⟩

theorem iceAgent_eq_some {node next : NodeLoop platform} {event : IceLoop.Event}
    (hstep : node.iceAgent event = some next) :
    ∃ ice, node.ice.step platform event = some ice ∧ next = { node with ice := ice } := by
  obtain ⟨ice, hice, rfl⟩ := Option.map_eq_some_iff.mp hstep
  exact ⟨ice, hice, rfl⟩

theorem extends_kademlia {node next : NodeLoop platform} {event : MaintainedDht.Event}
    {drawn : List Uuid} (hstep : node.kademlia event drawn = some next) :
    Extends node next (node.dht.arrivalsOf event) := by
  obtain ⟨dht, ice, rest, hdht, heach, rfl⟩ := kademlia_eq_some hstep
  have htable : IceLoop.Extends node.ice { node.ice with table := dht.loop.table } :=
    IceLoop.extends_of_eq rfl (List.Subset.refl _)
  have hice : IceLoop.Extends node.ice ice :=
    Supply.invariant_of_forEach (IceLoop.Extends node.ice)
      (fun _ _ _ _ _ hextends hsignal => hextends.trans (extends_signal hsignal)) htable heach
  exact ⟨MaintainedDht.extends_step hdht, hice, List.prefix_refl _, List.prefix_refl _⟩

theorem extends_iceAgent {node next : NodeLoop platform} {event : IceLoop.Event}
    (hstep : node.iceAgent event = some next) : Extends node next [] := by
  obtain ⟨ice, hice, rfl⟩ := iceAgent_eq_some hstep
  exact ⟨(Extends.refl node).dht, IceLoop.extends_step hice, List.prefix_refl _,
    List.prefix_refl _⟩

/-! ## Events -/

theorem extends_of_eq {node next : NodeLoop platform} (hdht : next.dht = node.dht)
    (hice : next.ice = node.ice) (hanswers : next.answers = node.answers)
    (hgiven : node.given <+: next.given) : Extends node next [] where
  dht := hdht ▸ (Extends.refl node).dht
  ice := hice ▸ IceLoop.Extends.refl _
  answers := hanswers ▸ List.prefix_refl _
  given := hgiven

theorem updateGlobalSelfEndpoint_eq_some {node next : NodeLoop platform} {ep : Endpoint}
    (hupdate : node.updateGlobalSelfEndpoint ep = some next) :
    ∃ middle, node.iceAgent (.updateGlobalSelfEndpoint ep) = some middle ∧
      middle.kademlia (.updateGlobalSelfEndpoint ep) [] = some next :=
  Option.bind_eq_some_iff.mp hupdate

theorem extends_updateGlobalSelfEndpoint {node next : NodeLoop platform} {ep : Endpoint}
    (hupdate : node.updateGlobalSelfEndpoint ep = some next) : Extends node next [] := by
  obtain ⟨middle, hmiddle, hkademlia⟩ := updateGlobalSelfEndpoint_eq_some hupdate
  exact (extends_iceAgent hmiddle).trans (extends_kademlia hkademlia)

theorem extends_startServer (node : NodeLoop platform) : Extends node node.startServer [] :=
  extends_of_eq rfl rfl rfl (List.prefix_refl _)

theorem extends_runIce {node next : NodeLoop platform} {position : ℕ}
    (hrun : node.runIce position = some next) : Extends node next [] := by
  obtain ⟨taken, -, hrun⟩ := Option.bind_eq_some_iff.mp hrun
  obtain ⟨middle, hmiddle, hrun⟩ := Option.bind_eq_some_iff.mp hrun
  have hfirst := extends_iceAgent hmiddle
  split at hrun
  · exact hfirst.trans (extends_kademlia hrun)
  · obtain rfl := Option.some.inj hrun
    exact hfirst

theorem extends_serve {node next : NodeLoop platform} {event : LoopEvent}
    (hserve : node.serve event = some next) : Extends node next [] := by
  cases event with
  | expireDht position => exact extends_kademlia hserve
  | runDht position id drawn => exact extends_kademlia hserve
  | expireMaintainer position => exact extends_kademlia hserve
  | runMaintainer position ids drawn => exact extends_kademlia hserve
  | expireIce position => exact extends_iceAgent hserve
  | runIce position => exact extends_runIce hserve
  | refreshIce => exact extends_iceAgent hserve
  | refreshPool =>
      obtain rfl := Option.some.inj hserve
      exact extends_of_eq rfl rfl rfl (List.prefix_refl _)
  | tick id => exact extends_iceAgent hserve

theorem extends_send {node next : NodeLoop platform} {ep : Endpoint} {text : String}
    {id : Uuid} (hsend : node.send ep text id = some next) : Extends node next [] := by
  have hgiven : Extends node { node with given := node.given ++ [(ep, text)] } [] :=
    extends_of_eq rfl rfl rfl (List.prefix_append _ _)
  exact hgiven.trans (extends_iceAgent hsend)

theorem extends_receive {node next : NodeLoop platform} {position : ℕ} {peer : Peer}
    {timeout : ℤ} (hreceive : node.receive position peer timeout = some next) :
    Extends node next [] := by
  rw [receive] at hreceive
  split at hreceive
  · obtain rfl := Option.some.inj hreceive
    exact extends_of_eq rfl rfl rfl (List.prefix_refl _)
  · cases hreceive

theorem extends_act {node next : NodeLoop platform} {event : Event}
    (hstep : node.act event = some next) : Extends node next [] := by
  cases event with
  | start bootEps ids drawn id =>
      obtain ⟨middle, hmiddle, hbinding⟩ := Option.bind_eq_some_iff.mp hstep
      exact (node.extends_startServer.trans (extends_kademlia hmiddle)).trans
        (extends_iceAgent hbinding)
  | stop =>
      obtain rfl := Option.some.inj hstep
      exact ⟨MaintainedDht.extends_of_loop (DhtLoop.Extends.refl _) rfl, IceLoop.Extends.refl _,
        List.prefix_refl _, List.prefix_refl _⟩
  | syncGetGlobalAddress bootEps id => exact extends_iceAgent hstep
  | updateGlobalSelfEndpoint ep => exact extends_updateGlobalSelfEndpoint hstep
  | autoUpdate ep => exact extends_kademlia hstep
  | autoUpdateBatch eps => exact extends_kademlia hstep
  | hubStart =>
      obtain rfl := Option.some.inj hstep
      exact extends_of_eq rfl rfl rfl (List.prefix_refl _)
  | hubStop =>
      obtain rfl := Option.some.inj hstep
      exact extends_of_eq rfl rfl rfl (List.prefix_refl _)
  | getPeer ep =>
      obtain rfl := Option.some.inj hstep
      exact extends_of_eq rfl rfl rfl (List.prefix_refl _)
  | send position text id =>
      obtain ⟨peer, -, hsend⟩ := Option.bind_eq_some_iff.mp hstep
      exact extends_send hsend
  | receive position timeout =>
      obtain ⟨peer, -, hreceive⟩ := Option.bind_eq_some_iff.mp hstep
      exact extends_receive hreceive
  | advance seconds =>
      obtain ⟨middle, hmiddle, hadvance⟩ := Option.bind_eq_some_iff.mp hstep
      exact (extends_kademlia hmiddle).trans (extends_iceAgent hadvance)
  | serve event =>
      rw [act] at hstep
      split_ifs at hstep
      exact extends_serve hstep

theorem act_of_step {node next : NodeLoop platform} {event : Event}
    (hstep : node.step event = some next) :
    node.isCrashed = false ∧ node.act event = some next := by
  rw [step] at hstep
  split_ifs at hstep with hcrashed
  exact ⟨Bool.eq_false_of_not_eq_true hcrashed, hstep⟩

/-! ## What ends a node -/

theorem isCrashed_kademlia {node next : NodeLoop platform} {event : MaintainedDht.Event}
    {drawn : List Uuid} (hstep : node.kademlia event drawn = some next) :
    next.isCrashed = node.isCrashed := by
  obtain ⟨dht, ice, rest, -, -, rfl⟩ := kademlia_eq_some hstep
  rfl

theorem isCrashed_iceAgent {node next : NodeLoop platform} {event : IceLoop.Event}
    (hstep : node.iceAgent event = some next) : next.isCrashed = node.isCrashed := by
  obtain ⟨ice, -, rfl⟩ := iceAgent_eq_some hstep
  rfl

theorem isCrashed_updateGlobalSelfEndpoint {node next : NodeLoop platform} {ep : Endpoint}
    (hupdate : node.updateGlobalSelfEndpoint ep = some next) :
    next.isCrashed = node.isCrashed := by
  obtain ⟨middle, hmiddle, hkademlia⟩ := updateGlobalSelfEndpoint_eq_some hupdate
  exact (isCrashed_kademlia hkademlia).trans (isCrashed_iceAgent hmiddle)

theorem isCrashed_serve {node next : NodeLoop platform} {event : LoopEvent}
    (hserve : node.serve event = some next) : next.isCrashed = node.isCrashed := by
  cases event with
  | expireDht position => exact isCrashed_kademlia hserve
  | runDht position id drawn => exact isCrashed_kademlia hserve
  | expireMaintainer position => exact isCrashed_kademlia hserve
  | runMaintainer position ids drawn => exact isCrashed_kademlia hserve
  | expireIce position => exact isCrashed_iceAgent hserve
  | runIce position =>
      obtain ⟨taken, -, hrun⟩ := Option.bind_eq_some_iff.mp hserve
      obtain ⟨middle, hmiddle, hrun⟩ := Option.bind_eq_some_iff.mp hrun
      rw [← isCrashed_iceAgent hmiddle]
      split at hrun
      · exact isCrashed_kademlia hrun
      · rw [Option.some.inj hrun]
  | refreshIce => exact isCrashed_iceAgent hserve
  | refreshPool =>
      obtain rfl := Option.some.inj hserve
      rfl
  | tick id => exact isCrashed_iceAgent hserve

/-- Nothing ends a node but the arrival of a message. -/
theorem isCrashed_step {node next : NodeLoop platform} {event : Event}
    (hstep : node.step event = some next) : next.isCrashed = false := by
  obtain ⟨hruns, hact⟩ := act_of_step hstep
  rw [← hruns]
  cases event with
  | start bootEps ids drawn id =>
      obtain ⟨middle, hmiddle, hbinding⟩ := Option.bind_eq_some_iff.mp hact
      have hstarted : node.startServer.isCrashed = node.isCrashed := rfl
      rw [isCrashed_iceAgent hbinding, isCrashed_kademlia hmiddle, hstarted]
  | syncGetGlobalAddress bootEps id => exact isCrashed_iceAgent hact
  | updateGlobalSelfEndpoint ep => exact isCrashed_updateGlobalSelfEndpoint hact
  | autoUpdate ep => exact isCrashed_kademlia hact
  | autoUpdateBatch eps => exact isCrashed_kademlia hact
  | send position text id =>
      obtain ⟨peer, -, hsend⟩ := Option.bind_eq_some_iff.mp hact
      have hsame := isCrashed_iceAgent hsend
      exact hsame
  | receive position timeout =>
      obtain ⟨peer, -, hreceive⟩ := Option.bind_eq_some_iff.mp hact
      rw [receive] at hreceive
      split at hreceive
      · rw [← Option.some.inj hreceive]
      · cases hreceive
  | advance seconds =>
      obtain ⟨middle, hmiddle, hadvance⟩ := Option.bind_eq_some_iff.mp hact
      exact (isCrashed_iceAgent hadvance).trans (isCrashed_kademlia hmiddle)
  | serve event =>
      rw [act] at hact
      split_ifs at hact
      exact isCrashed_serve hact
  | _ => rw [← Option.some.inj hact]

/-! ## The arrival of a message -/

/-- The Kademlia layer notes every message, also one that it raises on. -/
theorem exists_incomeKademlia (node : NodeLoop platform) (msg : Message) (ep : Endpoint) :
    ∃ dht, node.dht.step platform (.receive msg ep) = some dht ∧
      node.incomeKademlia msg ep = { node with
        dht := dht
        ice := { node.ice with table := dht.loop.table }
        answers := node.answers ++ sentSince node.dht dht
        isCrashed := (node.dht.loop.step platform (.receive msg ep)).isNone } :=
  ⟨_, rfl, rfl⟩

theorem extends_incomeKademlia (node : NodeLoop platform) (msg : Message) (ep : Endpoint) :
    Extends node (node.incomeKademlia msg ep) [⟨msg, ep, node.dht.loop.io.sent⟩] := by
  obtain ⟨dht, hdht, hincome⟩ := node.exists_incomeKademlia msg ep
  rw [hincome]
  exact ⟨MaintainedDht.extends_step hdht, IceLoop.extends_of_eq rfl (List.Subset.refl _),
    List.prefix_append _ _, List.prefix_refl _⟩

theorem extends_incomeIceAgent (draws : Draws) (msg : Message) (ep : Endpoint)
    (node : NodeLoop platform) : Extends node (node.incomeIceAgent draws msg ep) [] := by
  rw [incomeIceAgent]
  cases hreceive : node.ice.receive platform draws.observerId msg ep with
  | none => exact extends_of_eq rfl rfl rfl (List.prefix_refl _)
  | some ice =>
      exact ⟨(Extends.refl node).dht, IceLoop.extends_receive hreceive, List.prefix_refl _,
        List.prefix_refl _⟩

/-- The store only fills the pool, and it never raises. -/
theorem exists_storeMessage (draws : Draws) (msg : Message) (ep : Endpoint)
    (node : NodeLoop platform) :
    ∃ msgPool, node.storeMessage draws msg ep = { node with msgPool := msgPool } := by
  rw [storeMessage, MessagePool.store_eq]
  split_ifs
  · exact ⟨node.msgPool, rfl⟩
  · exact ⟨_, rfl⟩
  · exact ⟨_, rfl⟩

theorem extends_storeMessage (draws : Draws) (msg : Message) (ep : Endpoint)
    (node : NodeLoop platform) : Extends node (node.storeMessage draws msg ep) [] := by
  obtain ⟨msgPool, hstored⟩ := node.exists_storeMessage draws msg ep
  rw [hstored]
  exact extends_of_eq rfl rfl rfl (List.prefix_refl _)

theorem extends_andThen {part : NodeLoop platform → NodeLoop platform}
    (hpart : ∀ node, Extends node (part node) []) (node : NodeLoop platform) :
    Extends node (andThen part node) [] := by
  rw [andThen]
  split_ifs
  · exact Extends.refl node
  · exact hpart node

theorem dht_incomeIceAgent (draws : Draws) (msg : Message) (ep : Endpoint)
    (node : NodeLoop platform) : (node.incomeIceAgent draws msg ep).dht = node.dht := by
  rw [incomeIceAgent]
  split
  · rfl
  · rfl

theorem dht_storeMessage (draws : Draws) (msg : Message) (ep : Endpoint)
    (node : NodeLoop platform) : (node.storeMessage draws msg ep).dht = node.dht := by
  obtain ⟨msgPool, hstored⟩ := node.exists_storeMessage draws msg ep
  rw [hstored]

theorem dht_andThen {part : NodeLoop platform → NodeLoop platform}
    (hpart : ∀ node, (part node).dht = node.dht) (node : NodeLoop platform) :
    (andThen part node).dht = node.dht := by
  rw [andThen]
  split_ifs
  · rfl
  · exact hpart node

theorem onReceivePacket_of_decode {node : NodeLoop platform} {draws : Draws}
    {raw : List UInt8} {ep : Endpoint} {msg : Message}
    (hdecode : Message.decode platform raw = .ok msg) :
    node.onReceivePacket draws raw ep = andThen (storeMessage draws msg ep)
      (andThen (incomeIceAgent draws msg ep) (node.incomeKademlia msg ep)) := by
  rw [onReceivePacket, hdecode]

/-- The Kademlia layer is the first to handle a message, and no other part touches it. -/
theorem dht_onReceivePacket {node : NodeLoop platform} {draws : Draws} {raw : List UInt8}
    {ep : Endpoint} {msg : Message} (hdecode : Message.decode platform raw = .ok msg) :
    (node.onReceivePacket draws raw ep).dht = (node.incomeKademlia msg ep).dht := by
  rw [onReceivePacket_of_decode hdecode, dht_andThen (dht_storeMessage draws msg ep),
    dht_andThen (dht_incomeIceAgent draws msg ep)]

/-- A message that is decoded is noted. -/
theorem extends_onReceivePacket {node : NodeLoop platform} {draws : Draws}
    {raw : List UInt8} {ep : Endpoint} {msg : Message}
    (hdecode : Message.decode platform raw = .ok msg) :
    Extends node (node.onReceivePacket draws raw ep)
      [⟨msg, ep, node.dht.loop.io.sent⟩] := by
  rw [onReceivePacket_of_decode hdecode]
  have hkademlia := extends_incomeKademlia node msg ep
  have hice := hkademlia.trans (extends_andThen (extends_incomeIceAgent draws msg ep) _)
  exact hice.trans (extends_andThen (extends_storeMessage draws msg ep) _)

end NodeLoop

end SsP2p.Net

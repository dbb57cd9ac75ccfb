import SsP2p.Kademlia.LocatedDht
import SsP2p.Net.ClusterSafety

/-!
# Nodes know where they are

A node is built with the endpoint at which the others reach it, and its application tells it
no other one.  No address is translated on the way, so an answer to a binding request names
the endpoint that it arrives at.  Whatever majority a node waits for, it elects its own
endpoint, and the handler of `start` and `tick` tells both layers what they were built with.
-/

namespace SsP2p.Net

open Ice Kademlia

variable {platform : Platform}

namespace NodeLoop

variable {own : Endpoint}

/-- The node takes this endpoint for its own: in both layers, whenever a binding request
comes to a result, and for the buckets of its table. -/
structure LocatedAt (own : Endpoint) (node : NodeLoop platform) : Prop where
  agent : node.ice.agent.selfEp = own
  manager : node.dht.loop.manager.selfEp = own
  elected : ∀ settlement ∈ node.ice.history.settled, ∀ ep,
    settlement.ep = some ep ∨ settlement.result = some ep → ep = own
  follows : node.dht.loop.FollowsSelfId platform

theorem Proper.locatedAt {node : NodeLoop platform} (hproper : node.Proper (· = own))
    (hlocated : node.dht.loop.LocatedAt platform own) : node.LocatedAt own where
  agent := hproper.ice.proper.selfEp
  manager := hlocated.selfEp
  elected := by
    intro settlement hmem ep helected
    have hsettled : settlement ∈ node.ice.settlements settlement.id :=
      List.mem_filter.mpr ⟨hmem, decide_eq_true rfl⟩
    obtain ⟨hresult, -⟩ := (hproper.ice.settled settlement.id).agrees settlement hsettled
    rw [hresult, or_self] at helected
    exact hproper.ice.elects settlement hmem ep helected
  follows := hlocated.followsSelfId

/-! ## The Kademlia layer stays -/

theorem locatedAt_kademlia {node next : NodeLoop platform} {event : MaintainedDht.Event}
    {drawn : List Uuid} (hlocated : node.dht.loop.LocatedAt platform own)
    (hstep : node.kademlia event drawn = some next)
    (htold : ∀ ep, event = .updateGlobalSelfEndpoint ep → ep = own) :
    next.dht.loop.LocatedAt platform own := by
  obtain ⟨dht, ice, rest, hdht, -, rfl⟩ := kademlia_eq_some hstep
  exact MaintainedDht.locatedAt_step hlocated htold hdht

theorem locatedAt_iceAgent {node next : NodeLoop platform} {event : IceLoop.Event}
    (hlocated : node.dht.loop.LocatedAt platform own)
    (hstep : node.iceAgent event = some next) : next.dht.loop.LocatedAt platform own := by
  obtain ⟨ice, -, rfl⟩ := iceAgent_eq_some hstep
  exact hlocated

/-- The handler tells what was elected. -/
theorem Proper.locatedAt_runIce {node next : NodeLoop platform} {position : ℕ}
    (hproper : node.Proper (· = own)) (hlocated : node.dht.loop.LocatedAt platform own)
    (hrun : node.runIce position = some next) : next.dht.loop.LocatedAt platform own := by
  obtain ⟨taken, htake, hrun⟩ := Option.bind_eq_some_iff.mp hrun
  obtain ⟨middle, hmiddle, hrun⟩ := Option.bind_eq_some_iff.mp hrun
  have hfirst := locatedAt_iceAgent hlocated hmiddle
  split at hrun
  · next id ep hcallback =>
    have hpending : .srHandler id (some ep) ∈ node.ice.io.pending := by
      rw [IoContext.pending_take htake, hcallback]
      exact Multiset.mem_cons_self _ _
    refine locatedAt_kademlia hfirst hrun fun told htold => ?_
    rw [← MaintainedDht.Event.updateGlobalSelfEndpoint.inj htold]
    exact hproper.ice.proper.handlers id ep hpending
  · obtain rfl := Option.some.inj hrun
    exact hfirst

theorem Proper.locatedAt_serve {node next : NodeLoop platform} {event : LoopEvent}
    (hproper : node.Proper (· = own)) (hlocated : node.dht.loop.LocatedAt platform own)
    (hserve : node.serve event = some next) : next.dht.loop.LocatedAt platform own := by
  cases event with
  | expireDht position => exact locatedAt_kademlia hlocated hserve (by simp)
  | runDht position id drawn => exact locatedAt_kademlia hlocated hserve (by simp)
  | expireMaintainer position => exact locatedAt_kademlia hlocated hserve (by simp)
  | runMaintainer position ids drawn => exact locatedAt_kademlia hlocated hserve (by simp)
  | expireIce position => exact locatedAt_iceAgent hlocated hserve
  | runIce position => exact hproper.locatedAt_runIce hlocated hserve
  | refreshIce => exact locatedAt_iceAgent hlocated hserve
  | refreshPool =>
      obtain rfl := Option.some.inj hserve
      exact hlocated
  | tick id => exact locatedAt_iceAgent hlocated hserve

theorem Proper.locatedAt_step {node next : NodeLoop platform} {event : Event}
    (hproper : node.Proper (· = own)) (hlocated : node.dht.loop.LocatedAt platform own)
    (hadmits : Admits (· = own) event) (hstep : node.step event = some next) :
    next.dht.loop.LocatedAt platform own := by
  obtain ⟨-, hact⟩ := act_of_step hstep
  cases event with
  | start bootEps ids drawn id =>
      obtain ⟨middle, hmiddle, hbinding⟩ := Option.bind_eq_some_iff.mp hact
      have hstarted : node.startServer.dht.loop.LocatedAt platform own := hlocated
      exact locatedAt_iceAgent (locatedAt_kademlia hstarted hmiddle (by simp)) hbinding
  | stop =>
      obtain rfl := Option.some.inj hact
      exact hlocated
  | syncGetGlobalAddress bootEps id => exact locatedAt_iceAgent hlocated hact
  | updateGlobalSelfEndpoint ep =>
      obtain ⟨middle, hmiddle, hkademlia⟩ := updateGlobalSelfEndpoint_eq_some hact
      refine locatedAt_kademlia (locatedAt_iceAgent hlocated hmiddle) hkademlia
        fun told htold => ?_
      rw [← MaintainedDht.Event.updateGlobalSelfEndpoint.inj htold]
      exact hadmits
  | autoUpdate ep => exact locatedAt_kademlia hlocated hact (by simp)
  | autoUpdateBatch eps => exact locatedAt_kademlia hlocated hact (by simp)
  | send position text id =>
      obtain ⟨peer, -, hsend⟩ := Option.bind_eq_some_iff.mp hact
      obtain ⟨ice, -, rfl⟩ := iceAgent_eq_some hsend
      exact hlocated
  | receive position timeout =>
      obtain ⟨peer, -, hreceive⟩ := Option.bind_eq_some_iff.mp hact
      rw [NodeLoop.receive] at hreceive
      split at hreceive
      · obtain rfl := Option.some.inj hreceive
        exact hlocated
      · cases hreceive
  | advance seconds =>
      obtain ⟨middle, hmiddle, hadvance⟩ := Option.bind_eq_some_iff.mp hact
      exact locatedAt_iceAgent (locatedAt_kademlia hlocated hmiddle (by simp)) hadvance
  | serve event =>
      rw [act] at hact
      split_ifs at hact
      exact hproper.locatedAt_serve hlocated hact
  | _ =>
      obtain rfl := Option.some.inj hact
      exact hlocated

theorem locatedAt_onReceivePacket {node : NodeLoop platform} {draws : Draws}
    {raw : List UInt8} {ep : Endpoint} (hlocated : node.dht.loop.LocatedAt platform own) :
    (node.onReceivePacket draws raw ep).dht.loop.LocatedAt platform own := by
  cases hdecode : Message.decode platform raw with
  | error fault =>
      rw [onReceivePacket, hdecode]
      exact hlocated
  | ok msg =>
      obtain ⟨dht, hdht, hincome⟩ := node.exists_incomeKademlia msg ep
      rw [dht_onReceivePacket hdecode, hincome]
      exact MaintainedDht.locatedAt_step hlocated (by simp) hdht

end NodeLoop

namespace Cluster

/-- A node is told the endpoint at which it is reached only. -/
def Naming.reachedAt : Naming where
  Named ep known := known = ep.val
  v4 ep _ hknown := hknown ▸ ep.property
  own _ := rfl

/-- Every node is where it takes itself to be. -/
def Located (cluster : Cluster platform) : Prop :=
  ∀ ep : V4Endpoint, (cluster.node ep).LocatedAt ep.val

theorem locatedAt_moves {cluster : Cluster platform} {event : Event} {ep : V4Endpoint}
    {after : NodeLoop platform} (hproper : cluster.Proper .reachedAt)
    (hlocated : (cluster.node ep).dht.loop.LocatedAt platform ep.val)
    (hadmits : Admits .reachedAt event) (hmoves : cluster.Moves event ep after) :
    after.dht.loop.LocatedAt platform ep.val := by
  cases hmoves with
  | act _ event after hstep =>
      exact (hproper.nodes ep).locatedAt_step hlocated hadmits hstep
  | deliver src _ shown position draws out made hout hdest hshown hmade hruns =>
      exact NodeLoop.locatedAt_onReceivePacket hlocated

theorem locatedAt_step {cluster next : Cluster platform} {event : Event}
    (hproper : cluster.Proper .reachedAt)
    (hlocated : ∀ ep, (cluster.node ep).dht.loop.LocatedAt platform ep.val)
    (hadmits : Admits .reachedAt event) (hstep : cluster.step event = some next)
    (ep : V4Endpoint) : (next.node ep).dht.loop.LocatedAt platform ep.val := by
  obtain ⟨moved, after, hsteps⟩ := exists_steps hstep
  exact hsteps.forall_node (P := fun other node => node.dht.loop.LocatedAt platform other.val)
    (locatedAt_moves hproper (hlocated moved) hadmits hsteps.moves)
    (fun other _ => hlocated other) ep

/-- In every run in which the applications use IPv4 endpoints and texts that can be encoded,
and tell no node another endpoint than its own, no node ever takes another one for its own. -/
theorem throughout_located (hreads : platform.ReadsBack) (hbson : platform.ReadsBson)
    (hshort : platform.ShortTexts) (now : ℕ) (events : List Event)
    (hadmits : ∀ event ∈ events, Admits .reachedAt event) :
    Runs.Throughout step Located (start now : Cluster platform) events := by
  apply Runs.throughout_of_meets fun cluster : Cluster platform =>
    cluster.Proper .reachedAt ∧ ∀ ep, (cluster.node ep).dht.loop.LocatedAt platform ep.val
  · exact fun cluster event next hboth hadmits hstep =>
      ⟨proper_step hreads hbson hshort hboth.1 hadmits hstep,
        locatedAt_step hboth.1 hboth.2 hadmits hstep⟩
  · exact fun cluster hboth ep => (hboth.1.nodes ep).locatedAt (hboth.2 ep)
  · exact ⟨proper_start .reachedAt now,
      fun ep => DhtLoop.locatedAt_start platform ep.val now⟩
  · exact Runs.meets_of_forall (fun event hevent _ => hadmits event hevent) _

/-- The nodes at `10.0.0.2` and `10.0.0.1` start, and the latter asks the former where it is;
the answer arrives, the handler runs, and the application tells the node the same. -/
def bootstrap : List Event :=
  [.act (v4At 2) (.start [] [] [] 6), .act (v4At 1) (.start [nodeAt 2] [] [] 1),
    .deliver (v4At 1) (v4At 2) (v4At 1) 0 ⟨2, 3, 0⟩,
    .deliver (v4At 2) (v4At 1) (v4At 2) 0 ⟨4, 5, 0⟩,
    .act (v4At 1) (.serve (.runIce 0)), .act (v4At 1) (.updateGlobalSelfEndpoint (nodeAt 1))]

theorem throughout_located_bootstrap :
    ((Runs.execute step (start 0 : Cluster bsonPlatform) bootstrap).map fun cluster =>
        ((cluster.node (v4At 1)).ice.history.ran,
          (cluster.node (v4At 1)).ice.history.settled.map (·.ep))) =
      some ([.srHandler 1 (some (nodeAt 1))], [some (nodeAt 1)]) ∧
      Runs.Throughout step Located (start 0 : Cluster bsonPlatform) bootstrap := by
  refine ⟨by decide +kernel, throughout_located readsBack_bsonPlatform readsBson_bsonPlatform
    shortTexts_bsonPlatform 0 bootstrap ?_⟩
  simp only [bootstrap, List.forall_mem_cons]
  exact ⟨trivial, trivial, trivial, trivial, trivial, rfl, nofun⟩

end Cluster

end SsP2p.Net

import SsP2p.Net.Cluster

/-!
# No node ends another

Where the applications pass in IPv4 endpoints only and send texts that can be encoded
(`Admits`), everything that a node sends to another is decoded as it was sent, whatever was
lost, doubled or reordered before, and the handler of the other returns.  Only a message to
itself can end a node.
-/

namespace SsP2p.Net

open Ice Kademlia

namespace Cluster

variable {platform : Platform}

/-- The endpoints that the nodes may be told for their own: IPv4 endpoints, and for each node
the one at which it is reached. -/
structure Naming where
  Named : V4Endpoint → Endpoint → Prop
  v4 : ∀ ep known, Named ep known → known.IsV4
  own : ∀ ep : V4Endpoint, Named ep ep.val

/-- A node may be told any IPv4 endpoint. -/
def Naming.anyV4 : Naming where
  Named _ known := known.IsV4
  v4 _ _ hknown := hknown
  own ep := ep.property

/-- The message was sent to the node at `dest`, which has also heard from the endpoint that
the handler was given. -/
structure Arrived (cluster : Cluster platform) (dest : V4Endpoint) (arrival : Arrival) :
    Prop where
  sent : ∃ src, ∃ out ∈ (cluster.node src).sent, out.dest = dest.val ∧
    (datagram src out).isSome = true ∧ arrival.msg = out.msg.ordered
  shown : ∃ shown : V4Endpoint, arrival.ep = shown.val ∧ cluster.HasSent shown dest

/-- The invariant: every node is as it should be, whatever arrived was sent, and no two
nodes have drawn the same id. -/
structure Proper (naming : Naming) (cluster : Cluster platform) : Prop where
  nodes : ∀ ep : V4Endpoint, (cluster.node ep).Proper (naming.Named ep)
  arrivals : ∀ ep, ∀ arrival ∈ (cluster.node ep).dht.arrivals, cluster.Arrived ep arrival
  drawn : ∀ ep, (cluster.node ep).issued ⊆ cluster.drawn
  apart : ∀ left right id, id ∈ (cluster.node left).issued →
    id ∈ (cluster.node right).issued → left = right
  ended : ∀ ep, (cluster.node ep).isCrashed = true → cluster.HasSent ep ep

/-- What the applications may do: the endpoints that they pass in are IPv4 endpoints, those
that they tell a node for its own are named, and their texts can be encoded. -/
def Admits (naming : Naming) : Event → Prop
  | .act ep event => NodeLoop.Admits (naming.Named ep) event
  | .deliver _ _ _ _ _ => True

/-- Every datagram can be encoded, and the handler of another node returns on it. -/
def Handles (cluster : Cluster platform) : Prop :=
  ∀ src dest shown : V4Endpoint, src ≠ dest → ∀ out ∈ (cluster.node src).sent,
    out.dest = dest.val → ∀ draws, ∃ raw, out.msg.encode = .ok raw ∧
      Message.decode platform raw = .ok out.msg.ordered ∧
      ((cluster.node dest).onReceivePacket draws raw shown.val).isCrashed = false

/-- The nodes are as safe as this: no datagram of another node ends a node, and a node that
has ended has sent a datagram to itself. -/
structure Safe (cluster : Cluster platform) : Prop where
  handles : cluster.Handles
  ended : ∀ ep, (cluster.node ep).isCrashed = true → cluster.HasSent ep ep

variable {naming : Naming}

/-! ## What is kept -/

def Grows (cluster next : Cluster platform) : Prop :=
  ∀ ep, (cluster.node ep).sent ⊆ (next.node ep).sent

theorem Grows.hasSent {cluster next : Cluster platform} (hgrows : cluster.Grows next)
    {src dest : V4Endpoint} (hsent : cluster.HasSent src dest) : next.HasSent src dest := by
  obtain ⟨out, hout, hfits⟩ := hsent
  exact ⟨out, hgrows src hout, hfits⟩

theorem Arrived.mono {cluster next : Cluster platform} (hgrows : cluster.Grows next)
    {dest : V4Endpoint} {arrival : Arrival} (harrived : cluster.Arrived dest arrival) :
    next.Arrived dest arrival where
  sent := by
    obtain ⟨src, out, hout, hfits⟩ := harrived.sent
    exact ⟨src, out, hgrows src hout, hfits⟩
  shown := by
    obtain ⟨shown, hep, hsent⟩ := harrived.shown
    exact ⟨shown, hep, hgrows.hasSent hsent⟩

theorem Steps.grows {cluster next : Cluster platform} {event : Event} {ep : V4Endpoint}
    {after : NodeLoop platform} (hsteps : cluster.Steps event next ep after)
    (hsent : (cluster.node ep).sent ⊆ after.sent) : cluster.Grows next :=
  hsteps.forall_node (P := fun other node => (cluster.node other).sent ⊆ node.sent) hsent
    fun _ _ => List.Subset.refl _

/-! ## What arrives -/

/-- What a node sends is decoded as it was sent. -/
theorem Proper.exists_decode (hbson : platform.ReadsBson) (hshort : platform.ShortTexts)
    {cluster : Cluster platform} (hproper : cluster.Proper naming) {src : V4Endpoint}
    {out : Outgoing} (hout : out ∈ (cluster.node src).sent) :
    ∃ raw, out.msg.encode = .ok raw ∧ Message.decode platform raw = .ok out.msg.ordered :=
  Message.decode_encode hbson
    (((hproper.nodes src).writes hshort hout).encodable hshort (hproper.nodes src))

/-- The handler of a node ends it only with a datagram that it has sent itself. -/
theorem Proper.eq_of_isCrashed (hreads : platform.ReadsBack) (hshort : platform.ShortTexts)
    {cluster : Cluster platform} (hproper : cluster.Proper naming) {src dest : V4Endpoint}
    {out : Outgoing} {raw : List UInt8} {draws : Draws}
    (hout : out ∈ (cluster.node src).sent)
    (hraw : Message.decode platform raw = .ok out.msg.ordered) (shown : V4Endpoint)
    (hcrashed : ((cluster.node dest).onReceivePacket draws raw shown.val).isCrashed = true) :
    src = dest := by
  have hwrites := (hproper.nodes src).writes hshort hout
  rw [NodeLoop.isCrashed_onReceivePacket_iff hreads hshort (hproper.nodes dest) hraw
    shown.property (hwrites.soundKademlia hshort (hproper.nodes src)).ordered
    hwrites.soundIce.ordered] at hcrashed
  have hdrawnByBoth : ∃ id, id ∈ (cluster.node src).issued ∧
      id ∈ (cluster.node dest).issued := by
    rcases hcrashed with ⟨body, id, hpart, hsound, hstored⟩ |
      ⟨iceMsg, id, hpart, hsound, hstored⟩
    · obtain ⟨obs, hobs⟩ := Option.isSome_iff_exists.mp hstored
      refine ⟨id, List.mem_append_left _ ?_, List.mem_append_left _ ?_⟩
      · exact hwrites.issued_of_request hreads hshort (hproper.nodes src) hpart hsound
      · exact (hproper.nodes dest).dht.findNodes id obs hobs
    · refine ⟨id, List.mem_append_right _ ?_, List.mem_append_right _ ?_⟩
      · exact hwrites.issued_of_binding hreads hpart hsound
      · by_contra hnew
        have hunused := (((hproper.nodes dest).ice.settled id).unused hnew).bindings
        rw [hunused] at hstored
        cases hstored
  obtain ⟨id, hsrc, hdest⟩ := hdrawnByBoth
  exact hproper.apart src dest id hsrc hdest

/-! ## Runs -/

section Runs

variable (hreads : platform.ReadsBack) (hbson : platform.ReadsBson)
  (hshort : platform.ShortTexts)

include hreads hbson hshort

theorem Proper.safe {cluster : Cluster platform} (hproper : cluster.Proper naming) :
    cluster.Safe where
  handles src dest shown hne out hout hdest draws := by
    obtain ⟨raw, hraw, hdecode⟩ := hproper.exists_decode hbson hshort hout
    refine ⟨raw, hraw, hdecode, Bool.eq_false_of_not_eq_true fun hcrashed => hne ?_⟩
    exact hproper.eq_of_isCrashed hreads hshort hout hdecode shown hcrashed
  ended := hproper.ended

/-- What a step makes of its node. -/
theorem Proper.moves {cluster : Cluster platform} {event : Event} {ep : V4Endpoint}
    {after : NodeLoop platform} (hproper : cluster.Proper naming)
    (hadmits : Admits naming event) (hmoves : cluster.Moves event ep after) :
    after.Proper (naming.Named ep) ∧ (after.isCrashed = true → cluster.HasSent ep ep) ∧
      ∃ added, NodeLoop.Extends (cluster.node ep) after added ∧
        ∀ arrival ∈ added, cluster.Arrived ep arrival := by
  cases hmoves with
  | act _ event after hstep =>
      refine ⟨(hproper.nodes ep).step hreads hshort hadmits hstep, fun hcrashed => ?_, [],
        NodeLoop.extends_act (NodeLoop.act_of_step hstep).2, nofun⟩
      rw [NodeLoop.isCrashed_step hstep] at hcrashed
      cases hcrashed
  | deliver src _ shown position draws out made hout hdest hshown hmade hruns =>
      obtain ⟨raw, hraw, hdecode⟩ := hproper.exists_decode hbson hshort hout
      obtain rfl := Except.ok.inj (hraw.symm.trans (datagram_eq_some hmade))
      have hfits : (datagram src out).isSome = true := by
        rw [hmade]
        rfl
      have htold : ∀ known, known = out.dest → naming.Named ep known := by
        intro known hknown
        rw [hknown, hdest]
        exact naming.own ep
      have hwrites := (hproper.nodes src).writes hshort hout
      refine ⟨?_, fun hcrashed => ?_, _, NodeLoop.extends_onReceivePacket hdecode, ?_⟩
      · exact (hproper.nodes ep).onReceivePacket hreads hshort hdecode shown.property
          (hwrites.soundKademlia hshort (hproper.nodes src)).ordered hwrites.soundIce.ordered
          ((hwrites.tells hreads).mono htold)
      · obtain rfl := hproper.eq_of_isCrashed hreads hshort hout hdecode shown hcrashed
        exact ⟨out, hout, hdest, hfits⟩
      · intro arrival harrival
        rw [List.mem_singleton.mp harrival]
        exact ⟨⟨src, out, hout, hdest, hfits, rfl⟩, ⟨shown, rfl, hshown⟩⟩

theorem proper_step {cluster next : Cluster platform} {event : Event}
    (hproper : cluster.Proper naming) (hadmits : Admits naming event)
    (hstep : cluster.step event = some next) : next.Proper naming := by
  obtain ⟨ep, after, hsteps⟩ := exists_steps hstep
  obtain ⟨hafter, hended, added, hextends, hadded⟩ :=
    hproper.moves hreads hbson hshort hadmits hsteps.moves
  have hgrows := hsteps.grows hextends.sent
  have hdrawn : cluster.drawn ⊆ next.drawn := by
    rw [hsteps.ledger]
    exact List.subset_append_right _ _
  have hapart : ∀ other id, other ≠ ep → id ∈ after.issued →
      id ∉ (cluster.node other).issued := by
    intro other id hne hissued hother
    by_cases hold : id ∈ (cluster.node ep).issued
    · exact hne (hproper.apart other ep id hother hold)
    · exact hsteps.fresh id hissued hold (hproper.drawn other hother)
  exact {
    nodes := hsteps.forall_node (P := fun other node => node.Proper (naming.Named other)) hafter
      fun other _ => hproper.nodes other
    arrivals := by
      refine hsteps.forall_node
        (P := fun other node => ∀ arrival ∈ node.dht.arrivals, next.Arrived other arrival) ?_ ?_
      · intro arrival harrival
        rw [hextends.dht.arrivals] at harrival
        cases List.mem_append.mp harrival with
        | inl hold => exact (hproper.arrivals ep arrival hold).mono hgrows
        | inr hnew => exact (hadded arrival hnew).mono hgrows
      · exact fun other _ arrival harrival =>
          (hproper.arrivals other arrival harrival).mono hgrows
    drawn := by
      refine hsteps.forall_node (P := fun _ node => node.issued ⊆ next.drawn) ?_ ?_
      · rw [hsteps.ledger]
        intro id hissued
        by_cases hold : id ∈ (cluster.node ep).issued
        · exact List.mem_append_right _ (hproper.drawn ep hold)
        · exact List.mem_append_left _ (List.mem_filter.mpr ⟨hissued, decide_eq_true hold⟩)
      · exact fun other _ => List.Subset.trans (hproper.drawn other) hdrawn
    apart := by
      refine hsteps.forall_node (P := fun left node => ∀ right id, id ∈ node.issued →
        id ∈ (next.node right).issued → left = right) ?_ fun left hleft => ?_
      · exact hsteps.forall_node
          (P := fun right node => ∀ id, id ∈ after.issued → id ∈ node.issued → ep = right)
          (fun _ _ _ => rfl)
          fun right hright id hissued hother => absurd hother (hapart right id hright hissued)
      · exact hsteps.forall_node
          (P := fun right node => ∀ id, id ∈ (cluster.node left).issued → id ∈ node.issued →
            left = right)
          (fun id hother hissued => absurd hother (hapart left id hleft hissued))
          fun right _ => hproper.apart left right
    ended := by
      refine hsteps.forall_node
        (P := fun other node => node.isCrashed = true → next.HasSent other other) ?_ ?_
      · exact fun hcrashed => hgrows.hasSent (hended hcrashed)
      · exact fun other _ hcrashed => hgrows.hasSent (hproper.ended other hcrashed) }

end Runs

theorem proper_start (naming : Naming) (now : ℕ) :
    (start now : Cluster platform).Proper naming where
  nodes ep := NodeLoop.proper_make (naming.v4 ep) (naming.own ep) now
  arrivals ep arrival harrival := by cases harrival
  drawn ep id hissued := by cases hissued
  apart left right id hissued := by cases hissued
  ended ep hcrashed := by cases hcrashed

/-- Whatever the invariant yields holds in every run in which the applications do what they
may. -/
theorem throughout_of_proper (hreads : platform.ReadsBack) (hbson : platform.ReadsBson)
    (hshort : platform.ShortTexts) {Good : Cluster platform → Prop}
    (hgood : ∀ cluster : Cluster platform, cluster.Proper naming → Good cluster) (now : ℕ)
    (events : List Event) (hadmits : ∀ event ∈ events, Admits naming event) :
    Runs.Throughout step Good (start now) events :=
  Runs.throughout_of_meets (Proper naming)
    (fun _ _ _ hproper hadmits hstep => proper_step hreads hbson hshort hproper hadmits hstep)
    (fun cluster hproper => hgood cluster hproper) (proper_start naming now)
    (Runs.meets_of_forall (fun event hevent _ => hadmits event hevent) _)

/-- In every run in which the applications use IPv4 endpoints and texts that can be
encoded, no datagram of another node ever ends a node. -/
theorem throughout_safe (hreads : platform.ReadsBack) (hbson : platform.ReadsBson)
    (hshort : platform.ShortTexts) (now : ℕ) (events : List Event)
    (hadmits : ∀ event ∈ events, Admits .anyV4 event) :
    Runs.Throughout step Safe (start now : Cluster platform) events :=
  throughout_of_proper hreads hbson hshort
    (fun _ hproper => hproper.safe hreads hbson hshort) now events hadmits

def v4At (n : ℕ) : V4Endpoint := ⟨nodeAt n, _, rfl⟩

/-- The node at `10.0.0.2` starts, and the application at `10.0.0.1` passes it in and makes a
peer for it. -/
def introduce : List Event :=
  [.act (v4At 2) (.start [] [] [] 6), .act (v4At 1) (.autoUpdate (nodeAt 2)),
    .act (v4At 1) (.getPeer (nodeAt 2))]

/-- It sends a text, which arrives twice. -/
def greet : List Event :=
  introduce ++ [.act (v4At 1) (.send 0 "hello" 1),
    .deliver (v4At 1) (v4At 2) (v4At 1) 0 ⟨2, 3, 0⟩,
    .deliver (v4At 1) (v4At 2) (v4At 1) 0 ⟨4, 5, 0⟩]

theorem admits_greet : ∀ event ∈ greet, Admits .anyV4 event := by
  have htext : Bson.Encodable (.string "hello") :=
    Bson.encodable_string (by decide) (by decide)
  simp only [greet, introduce, List.cons_append, List.nil_append, List.forall_mem_cons]
  exact ⟨trivial, (v4At 2).property, (v4At 2).property, htext, trivial, trivial, nofun⟩

theorem throughout_safe_greet :
    (Runs.execute step (start 0 : Cluster bsonPlatform) greet).isSome = true ∧
      Runs.Throughout step Safe (start 0 : Cluster bsonPlatform) greet :=
  ⟨by decide +kernel, throughout_safe readsBack_bsonPlatform readsBson_bsonPlatform
    shortTexts_bsonPlatform 0 greet admits_greet⟩

end Cluster

end SsP2p.Net

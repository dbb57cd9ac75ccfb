import Mathlib.Logic.Function.Basic
import SsP2p.Lib.Runs
import SsP2p.Net.NodeSoundness

/-!
# Nodes that exchange datagrams

A node runs at every IPv4 endpoint, and was built with the endpoint at which the others
reach it: no address is translated on the way.  The nodes act on their own, and a datagram
that was sent to a node may arrive at any later time, more than once, or never; what is too
long for a datagram never arrives.  The receiving handler is given the endpoint of some node
that has sent it a datagram, since `_src_ep` may have changed before the handler runs.  No id
is ever drawn by two nodes.
-/

namespace SsP2p.Net

open Ice Kademlia

abbrev V4Endpoint := { ep : Endpoint // ep.IsV4 }

/-- The nodes, with all ids that they have drawn. -/
structure Cluster (platform : Platform) where
  node : V4Endpoint → NodeLoop platform
  drawn : List Uuid

namespace Cluster

inductive Event where
  /-- The node at `ep` takes a step of its own. -/
  | act (ep : V4Endpoint) (event : NodeLoop.Event)
  /-- The datagram that `src` has sent at this position arrives at `dest`, whose handler is
  given `shown` as its source. -/
  | deliver (src dest shown : V4Endpoint) (position : ℕ) (draws : Draws)

variable {platform : Platform}

/-- Nodes that were just built, each with the endpoint at which it is reached. -/
def start (now : ℕ) : Cluster platform where
  node ep := .make platform ep.val now
  drawn := []

/-- The datagram that a message makes, unless it is too long. -/
def datagram (src : V4Endpoint) (out : Outgoing) : Option Datagram :=
  out.msg.encode.toOption.bind (Datagram.ofBytes src.val)

def HasSent (cluster : Cluster platform) (src dest : V4Endpoint) : Prop :=
  ∃ out ∈ (cluster.node src).sent, out.dest = dest.val ∧ (datagram src out).isSome = true

instance (cluster : Cluster platform) (src dest : V4Endpoint) :
    Decidable (cluster.HasSent src dest) :=
  inferInstanceAs (Decidable (∃ out ∈ _, _))

def newlyDrawn (node next : NodeLoop platform) : List Uuid :=
  next.issued.filter fun id => decide (id ∉ node.issued)

/-- A node goes on, with ids that were never drawn before. -/
def put (cluster : Cluster platform) (ep : V4Endpoint) (next : NodeLoop platform) :
    Option (Cluster platform) :=
  if (newlyDrawn (cluster.node ep) next).all (· ∉ cluster.drawn) then some
    { node := Function.update cluster.node ep next
      drawn := newlyDrawn (cluster.node ep) next ++ cluster.drawn }
  else none

def step (cluster : Cluster platform) : Event → Option (Cluster platform)
  | .act ep event => ((cluster.node ep).step event).bind (cluster.put ep)
  | .deliver src dest shown position draws =>
      (cluster.node src).sent[position]?.bind fun out =>
        if out.dest = dest.val ∧ cluster.HasSent shown dest then
          (datagram src out).bind fun datagram =>
            ((cluster.node dest).arrive draws datagram shown.val).bind (cluster.put dest)
        else none

theorem datagram_eq_some {src : V4Endpoint} {out : Outgoing} {made : Datagram}
    (hmade : datagram src out = some made) : out.msg.encode = .ok made.payload := by
  obtain ⟨raw, hraw, hbytes⟩ := Option.bind_eq_some_iff.mp hmade
  rw [Datagram.payload_of_ofBytes hbytes]
  exact Fallible.toOption_eq_some_iff.mp hraw

/-! ## What a step does -/

inductive Moves (cluster : Cluster platform) :
    Event → V4Endpoint → NodeLoop platform → Prop where
  | act (ep : V4Endpoint) (event : NodeLoop.Event) (next : NodeLoop platform)
      (hstep : (cluster.node ep).step event = some next) :
      Moves cluster (.act ep event) ep next
  | deliver (src dest shown : V4Endpoint) (position : ℕ) (draws : Draws) (out : Outgoing)
      (made : Datagram) (hout : out ∈ (cluster.node src).sent) (hdest : out.dest = dest.val)
      (hshown : cluster.HasSent shown dest) (hmade : datagram src out = some made)
      (hruns : (cluster.node dest).isCrashed = false) :
      Moves cluster (.deliver src dest shown position draws) dest
        ((cluster.node dest).onReceivePacket draws made.payload shown.val)

/-- The node that a step is about, and nothing else changes. -/
structure Steps (cluster : Cluster platform) (event : Event) (next : Cluster platform)
    (ep : V4Endpoint) (after : NodeLoop platform) : Prop where
  moves : cluster.Moves event ep after
  fresh : ∀ id ∈ after.issued, id ∉ (cluster.node ep).issued → id ∉ cluster.drawn
  nodes : next.node = Function.update cluster.node ep after
  ledger : next.drawn = newlyDrawn (cluster.node ep) after ++ cluster.drawn

theorem put_eq_some {cluster next : Cluster platform} {ep : V4Endpoint}
    {after : NodeLoop platform} (hput : cluster.put ep after = some next) :
    (∀ id ∈ after.issued, id ∉ (cluster.node ep).issued → id ∉ cluster.drawn) ∧
      next = { node := Function.update cluster.node ep after
               drawn := newlyDrawn (cluster.node ep) after ++ cluster.drawn } := by
  rw [put] at hput
  split_ifs at hput with hfresh
  refine ⟨fun id hissued hnew => ?_, (Option.some.inj hput).symm⟩
  have hnewly : id ∈ newlyDrawn (cluster.node ep) after :=
    List.mem_filter.mpr ⟨hissued, decide_eq_true hnew⟩
  exact of_decide_eq_true (List.all_eq_true.mp hfresh id hnewly)

theorem exists_steps {cluster next : Cluster platform} {event : Event}
    (hstep : cluster.step event = some next) :
    ∃ ep after, cluster.Steps event next ep after := by
  cases event with
  | act ep event =>
      obtain ⟨after, hafter, hput⟩ := Option.bind_eq_some_iff.mp hstep
      obtain ⟨hfresh, rfl⟩ := put_eq_some hput
      exact ⟨ep, after, .act ep event after hafter, hfresh, rfl, rfl⟩
  | deliver src dest shown position draws =>
      obtain ⟨out, hout, hdeliver⟩ := Option.bind_eq_some_iff.mp hstep
      split_ifs at hdeliver with hguard
      obtain ⟨made, hmade, harrives⟩ := Option.bind_eq_some_iff.mp hdeliver
      obtain ⟨after, hafter, hput⟩ := Option.bind_eq_some_iff.mp harrives
      obtain ⟨hfresh, rfl⟩ := put_eq_some hput
      rw [NodeLoop.arrive] at hafter
      split_ifs at hafter with hends
      obtain rfl := Option.some.inj hafter
      have hruns : (cluster.node dest).isCrashed = false :=
        Bool.eq_false_of_not_eq_true fun hcrashed => hends (Or.inl hcrashed)
      exact ⟨dest, _, .deliver src dest shown position draws out made
        (List.mem_of_getElem? hout) hguard.1 hguard.2 hmade hruns, hfresh, rfl, rfl⟩

namespace Steps

variable {cluster next : Cluster platform} {event : Event} {ep : V4Endpoint}
  {after : NodeLoop platform}

/-- Every node is the one that moved, or as it was before. -/
theorem forall_node (hsteps : cluster.Steps event next ep after)
    {P : V4Endpoint → NodeLoop platform → Prop} (hmoved : P ep after)
    (hothers : ∀ other, other ≠ ep → P other (cluster.node other)) (other : V4Endpoint) :
    P other (next.node other) := by
  rw [hsteps.nodes]
  exact (Function.forall_update_iff cluster.node P).mpr ⟨hmoved, hothers⟩ other

end Steps

end Cluster

end SsP2p.Net

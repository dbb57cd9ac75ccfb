import SsP2p.Kademlia.DhtGrowth
import SsP2p.Kademlia.SelfId

/-!
# A node that stays where it is

As long as a node is told no other endpoint than the one it was built with, its routing
table follows its id.
-/

namespace SsP2p.Kademlia

namespace DhtLoop

/-- The manager and the table have the id of this endpoint, and every stored node lies in
the bucket that it determines. -/
structure LocatedAt (platform : Platform) (own : Endpoint) (loop : DhtLoop) : Prop where
  selfEp : loop.manager.selfEp = own
  selfId : loop.manager.selfId = calcNodeId platform own
  table : loop.table.selfId = calcNodeId platform own
  placed : loop.table.Placed

variable {platform : Platform} {own : Endpoint}

theorem LocatedAt.followsSelfId {loop : DhtLoop} (hlocated : loop.LocatedAt platform own) :
    loop.FollowsSelfId platform := by
  have hown : loop.OwnIds platform :=
    ⟨by rw [hlocated.selfId, hlocated.selfEp], hlocated.placed⟩
  rw [followsSelfId_iff hown, hlocated.table, hlocated.selfId]

theorem locatedAt_start (platform : Platform) (own : Endpoint) (now : ℕ) :
    (start platform own now).LocatedAt platform own where
  selfEp := rfl
  selfId := rfl
  table := rfl
  placed := (ownIds_start own now).placed

theorem locatedAt_step {loop next : DhtLoop} {event : Event}
    (hlocated : loop.LocatedAt platform own)
    (htold : ∀ ep, event = .updateGlobalSelfEndpoint ep → ep = own)
    (hstep : loop.step platform event = some next) : next.LocatedAt platform own := by
  rcases step_sameIds hstep with ⟨ep, rfl, rfl⟩ | ⟨-, hsame⟩
  · obtain rfl := htold ep rfl
    exact ⟨rfl, rfl, hlocated.table, hlocated.placed⟩
  · exact {
      selfEp := hsame.selfEp.trans hlocated.selfEp
      selfId := hsame.selfId.trans hlocated.selfId
      table := hsame.table.trans hlocated.table
      placed := hsame.placed hlocated.placed }

/-- The application may fill the table. -/
theorem LocatedAt.autoUpdateBatch {loop : DhtLoop} (hlocated : loop.LocatedAt platform own)
    (eps : List Endpoint) :
    (loop.withTable (loop.table.autoUpdateBatch platform eps)).LocatedAt platform own := by
  induction eps generalizing loop with
  | nil => exact hlocated
  | cons ep eps ih =>
      have hfirst : (loop.withTable (loop.table.autoUpdateEndpoint platform ep)).LocatedAt
          platform own := {
        selfEp := hlocated.selfEp
        selfId := hlocated.selfId
        table := hlocated.table
        placed := KRoutingTable.placed_autoUpdateEndpoint platform hlocated.placed ep }
      exact ih hfirst

end DhtLoop

namespace MaintainedDht

theorem locatedAt_step {platform : Platform} {own : Endpoint} {dht next : MaintainedDht}
    {event : Event} (hlocated : dht.loop.LocatedAt platform own)
    (htold : ∀ ep, event = .updateGlobalSelfEndpoint ep → ep = own)
    (hstep : dht.step platform event = some next) : next.loop.LocatedAt platform own :=
  loop_of_step
    (fun _ _ _ hkept hcontains hloop => DhtLoop.locatedAt_step hkept
      (fun ep heq => htold ep (hcontains ep heq)) hloop)
    (fun _ eps hkept => hkept.autoUpdateBatch eps) hlocated hstep

end MaintainedDht

end SsP2p.Kademlia

import SsP2p.Core.HostPlatform
import SsP2p.Kademlia.DhtLoop

/-!
# The own id of a node

`update_global_self_endpoint` gives a new id to `dht_manager`, which
`rpc_manager` refers to; the routing table goes on computing branches from the
copy it was built with.  The two agree in exactly the runs whose updates do not
change the id.
-/

namespace SsP2p.Kademlia

namespace DhtLoop

variable (platform : Platform)

/-- Branches are computed from the id of the latest endpoint, and every stored
node lies in the bucket which that id determines. -/
structure FollowsSelfId (loop : DhtLoop) : Prop where
  selfId : loop.manager.selfId = calcNodeId platform loop.manager.selfEp
  table : loop.table.selfId = loop.manager.selfId
  placed : ({ loop.table with selfId := loop.manager.selfId } : KRoutingTable).Placed

def KeepsSelfId (loop : DhtLoop) : Event → Prop
  | .updateGlobalSelfEndpoint ep => calcNodeId platform ep = loop.table.selfId
  | _ => True

/-- What no step breaks: the table is right for its own copy of the id, and the
manager for its endpoint. -/
structure OwnIds (loop : DhtLoop) : Prop where
  selfId : loop.manager.selfId = calcNodeId platform loop.manager.selfEp
  placed : loop.table.Placed

/-- The table is the same up to nodes that are placed by the same id. -/
structure SameIds (loop next : DhtLoop) : Prop where
  selfEp : next.manager.selfEp = loop.manager.selfEp
  selfId : next.manager.selfId = loop.manager.selfId
  table : next.table.selfId = loop.table.selfId
  placed : loop.table.Placed → next.table.Placed

variable {platform}

theorem sameIds_pingRequest {loop next : DhtLoop} {id : Uuid} {ep : Endpoint}
    {pongHandler timeoutHandler : Handler}
    (hrequest : loop.pingRequest platform id ep pongHandler timeoutHandler =
      some next) : loop.SameIds next := by
  obtain ⟨-, payload, rfl⟩ := pingRequest_eq_some platform hrequest
  exact ⟨rfl, rfl, rfl, fun hplaced => hplaced⟩

theorem sameIds_invoke {loop next : DhtLoop} {handler : Handler} {ep : Endpoint}
    {id : Uuid} (hinvoke : loop.invoke platform handler ep id = some next) :
    loop.SameIds next := by
  rcases invoke_eq_some platform hinvoke with ⟨table, rfl, hselfId, hplaced⟩ | hrequest
  · exact ⟨rfl, rfl, hselfId, hplaced⟩
  · exact sameIds_pingRequest hrequest

theorem sameIds_runCallback {loop next : DhtLoop} {id : Uuid} {callback : Callback}
    (hrun : runCallback platform loop id callback = some next) :
    loop.SameIds next := by
  have hrefl : loop.SameIds loop := ⟨rfl, rfl, rfl, fun hplaced => hplaced⟩
  rcases runCallback_cases platform hrun with
    ⟨obsId, obs, -, -, rfl⟩ | ⟨invocation, handler, ep, -, hinvoke⟩ | ⟨-, rfl⟩
  · unfold timeout
    split_ifs
    · exact hrefl
    · exact ⟨rfl, rfl, rfl, fun hplaced => hplaced⟩
  · obtain ⟨hep, hid, htable, hplaced⟩ := sameIds_invoke hinvoke
    exact ⟨hep, hid, htable, hplaced⟩
  · exact ⟨rfl, rfl, rfl, fun hplaced => hplaced⟩

/-- Every step but an update leaves the ids alone. -/
theorem step_sameIds {loop next : DhtLoop} {event : Event}
    (hstep : loop.step platform event = some next) :
    (∃ ep, event = .updateGlobalSelfEndpoint ep ∧
      next = { loop with
        manager := loop.manager.updateGlobalSelfEndpoint platform ep }) ∨
    loop.KeepsSelfId platform event ∧ loop.SameIds next := by
  cases event with
  | pingRequest id ep pongHandler timeoutHandler =>
      exact Or.inr ⟨trivial, sameIds_pingRequest hstep⟩
  | findNodeRequest id ep ignoreEps responseHandler =>
      obtain ⟨-, payload, rfl⟩ := findNodeRequest_eq_some platform hstep
      exact Or.inr ⟨trivial, rfl, rfl, rfl, fun hplaced => hplaced⟩
  | receive msg ep =>
      refine Or.inr ⟨trivial, ?_⟩
      obtain ⟨manager, io, hincome, rfl⟩ := receive_eq_some platform hstep
      rcases DhtManager.incomeMessage_cases hincome with
        ⟨obs, -, -, rfl, -⟩ | ⟨obs, eps, -, -, -, rfl, -⟩ | ⟨table, rfl, hanswers⟩
      · exact ⟨rfl, rfl, rfl, fun hplaced => hplaced⟩
      · exact ⟨rfl, rfl, rfl, fun hplaced => hplaced⟩
      · exact ⟨rfl, rfl, hanswers.selfId, hanswers.placed⟩
  | updateGlobalSelfEndpoint ep =>
      exact Or.inl ⟨ep, rfl, (Option.some.inj hstep).symm⟩
  | advance seconds =>
      obtain rfl := Option.some.inj hstep
      exact Or.inr ⟨trivial, rfl, rfl, rfl, fun hplaced => hplaced⟩
  | expire position =>
      obtain ⟨io, -, rfl⟩ := Option.map_eq_some_iff.mp hstep
      exact Or.inr ⟨trivial, rfl, rfl, rfl, fun hplaced => hplaced⟩
  | run position id =>
      obtain ⟨⟨callback, io⟩, -, hrun⟩ := Option.bind_eq_some_iff.mp hstep
      obtain ⟨hep, hid, htable, hplaced⟩ := sameIds_runCallback hrun
      exact Or.inr ⟨trivial, hep, hid, htable, hplaced⟩

theorem ownIds_start (ep : Endpoint) (now : ℕ) : (start platform ep now).OwnIds platform where
  selfId := rfl
  placed index kn hkn := by
    change kn ∈ ((KRoutingTable.empty (calcNodeId platform ep)).bucketAt index).nodes at hkn
    rw [KRoutingTable.bucketAt_empty] at hkn
    cases hkn

theorem ownIds_step {loop next : DhtLoop} {event : Event}
    (hown : loop.OwnIds platform) (hstep : loop.step platform event = some next) :
    next.OwnIds platform := by
  rcases step_sameIds hstep with ⟨ep, -, rfl⟩ | ⟨-, hsame⟩
  · exact ⟨rfl, hown.placed⟩
  · exact ⟨by rw [hsame.selfId, hsame.selfEp, hown.selfId], hsame.placed hown.placed⟩

/-- For a table that is right for its own copy, following means that the copy is
the current id. -/
theorem followsSelfId_iff {loop : DhtLoop} (hown : loop.OwnIds platform) :
    loop.FollowsSelfId platform ↔ loop.table.selfId = loop.manager.selfId := by
  constructor
  · exact FollowsSelfId.table
  · intro htable
    refine ⟨hown.selfId, htable, ?_⟩
    rw [← htable]
    exact hown.placed

/-- The routing table follows the self id throughout exactly those runs in which
every update gives the id that the table was built with. -/
theorem throughout_followsSelfId_iff (ep : Endpoint) (now : ℕ)
    (events : List Event) :
    Runs.Throughout (step platform) (FollowsSelfId platform) (start platform ep now)
        events ↔
      Runs.Meets (step platform) (KeepsSelfId platform) (start platform ep now)
        events := by
  apply Runs.throughout_iff_meets (OwnIds platform)
  · intro loop event next hown hstep
    exact ownIds_step hown hstep
  · intro loop event next hown hfollows hstep
    have hnext := ownIds_step hown hstep
    rw [followsSelfId_iff hnext]
    rcases step_sameIds hstep with ⟨ep, rfl, rfl⟩ | ⟨hkeeps, hsame⟩
    · exact eq_comm
    · refine iff_of_true ?_ hkeeps
      rw [hsame.table, hsame.selfId]
      exact hfollows.table
  · intro loop event hstuck
    cases event with
    | updateGlobalSelfEndpoint ep => cases hstuck
    | _ => trivial
  · exact ownIds_start ep now
  · exact (followsSelfId_iff (ownIds_start ep now)).mpr rfl

/-- A node at `10.0.0.1:8100` learns that its global endpoint is another one:
the table still computes branches from the first id. -/
theorem not_followsSelfId_update :
    ¬ Runs.Throughout (step (hostPlatform [])) (FollowsSelfId (hostPlatform []))
      (start (hostPlatform []) (nodeAt 1) 0)
      [.updateGlobalSelfEndpoint (nodeAt 2)] := by
  rintro ⟨-, hfollows⟩
  have htable : calcNodeId (hostPlatform []) (nodeAt 1) =
      calcNodeId (hostPlatform []) (nodeAt 2) := hfollows.table
  revert htable
  decide +kernel

end DhtLoop

end SsP2p.Kademlia

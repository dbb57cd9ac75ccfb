import Mathlib.Data.List.Pairwise
import SsP2p.Kademlia.ConnectionMaintainer
import SsP2p.Kademlia.Dispatch

/-!
# A refresh round

`send_refresh_ping` pings every stored node.  Once each of these pings has had its
outcome, in whatever order and whatever nodes were added meanwhile, the nodes that
answered are the ones that are left, in the order of their pongs.
-/

namespace SsP2p.Kademlia

namespace KRoutingTable

/-- The node whose ping an event is the outcome of. -/
def Event.outcome : Event → Option KNode
  | .moveBack kn | .deleteNode kn => some kn
  | .autoUpdate _ => none

def Event.answer : Event → Option KNode
  | .moveBack kn => some kn
  | .deleteNode _ | .autoUpdate _ => none

def inBucket (table : KRoutingTable) (index : Fin kBucketCount) (nodes : List KNode) :
    List KNode :=
  nodes.filter fun kn => decide (table.calcBranchIndex kn = index)

/-- In a round over the nodes of `original`, with the events to come and the nodes that
answered so far: the original nodes of a bucket are the ones still waiting for their
outcome and, behind them, the ones that answered. -/
structure InRound (original table : KRoutingTable) (coming : List Event)
    (answered : List KNode) : Prop where
  selfId : table.selfId = original.selfId
  placed : table.Placed
  refines : ∃ abstract, table.Refines abstract
  shape : ∀ index, ∃ waiting : List KNode,
    (table.bucketAt index).nodes.filter original.isExist =
      waiting ++ original.inBucket index answered ∧
    waiting.Perm (original.inBucket index (coming.filterMap Event.outcome))

theorem calcBranchIndex_of_selfId {table other : KRoutingTable}
    (hselfId : table.selfId = other.selfId) (kn : KNode) :
    table.calcBranchIndex kn = other.calcBranchIndex kn := by
  simp only [calcBranchIndex, calcBranch, hselfId]

theorem isExist_congr (table : KRoutingTable) {left right : KNode}
    (heq : left.id = right.id) : table.isExist left = table.isExist right := by
  rw [Bool.eq_iff_iff, isExist, isExist, KBucket.isExist_iff, KBucket.isExist_iff,
    getBucket, getBucket, calcBranchIndex_congr table heq, heq]

section OneBucket

variable {nodes waiting answered rest : List KNode} {original : KRoutingTable} {kn : KNode}

/-- The node whose outcome is next is still waiting. -/
theorem filter_waiting (hnodup : (nodes.map KNode.id).Nodup)
    (hnodes : nodes.filter original.isExist = waiting ++ answered)
    (hwaiting : waiting.Perm (kn :: rest)) :
    (nodes.filter fun other => decide (other.id = kn.id)).filter original.isExist =
      [kn] ∧
    ∃ others : List KNode,
      (nodes.filter fun other => decide (other.id ≠ kn.id)).filter original.isExist =
        others ++ answered ∧ others.Perm rest := by
  have hselectedAll : ((waiting ++ answered).map KNode.id).Nodup := by
    rw [← hnodes]
    exact hnodup.sublist (List.filter_sublist.map KNode.id)
  have hkn : kn ∈ waiting := hwaiting.mem_iff.mpr List.mem_cons_self
  have hselected := hselectedAll
  rw [List.map_append, List.nodup_append] at hselected
  obtain ⟨hwaitingIds, -, hdisjoint⟩ := hselected
  have hrestIds : ((kn :: rest).map KNode.id).Nodup :=
    (hwaiting.map KNode.id).nodup_iff.mp hwaitingIds
  have hanswered : (answered.filter fun other => decide (other.id ≠ kn.id)) = answered := by
    rw [List.filter_eq_self]
    intro other hother
    rw [decide_eq_true_eq]
    exact (hdisjoint kn.id (List.mem_map_of_mem hkn) other.id
      (List.mem_map_of_mem hother)).symm
  have hrest : (rest.filter fun other => decide (other.id ≠ kn.id)) = rest := by
    rw [List.filter_eq_self]
    intro other hother
    rw [decide_eq_true_eq]
    intro hid
    exact (List.nodup_cons.mp hrestIds).1 (hid ▸ List.mem_map_of_mem hother)
  constructor
  · rw [List.filter_comm, hnodes]
    exact Recency.filter_key_eq hselectedAll (List.mem_append_left answered hkn)
  · refine ⟨waiting.filter fun other => decide (other.id ≠ kn.id), ?_, ?_⟩
    · rw [List.filter_comm, hnodes, List.filter_append, hanswered]
    · have hperm := hwaiting.filter fun other => decide (other.id ≠ kn.id)
      rwa [List.filter_cons_of_neg (by simp), hrest] at hperm

end OneBucket

/-- The outcome of a ping of one of the nodes, or news of another node. -/
def InRound.Allows (original : KRoutingTable) (event : Event) : Prop :=
  ∀ kn, event = .autoUpdate kn → original.isExist kn = false

theorem inBucket_cons_of_eq {table : KRoutingTable} {index : Fin kBucketCount}
    {kn : KNode} (hindex : table.calcBranchIndex kn = index) (nodes : List KNode) :
    table.inBucket index (kn :: nodes) = kn :: table.inBucket index nodes :=
  List.filter_cons_of_pos (decide_eq_true hindex)

theorem inBucket_cons_of_ne {table : KRoutingTable} {index : Fin kBucketCount}
    {kn : KNode} (hindex : table.calcBranchIndex kn ≠ index) (nodes : List KNode) :
    table.inBucket index (kn :: nodes) = table.inBucket index nodes :=
  List.filter_cons_of_neg (by simpa using hindex)

theorem inBucket_append (table : KRoutingTable) (index : Fin kBucketCount)
    (first second : List KNode) :
    table.inBucket index (first ++ second) =
      table.inBucket index first ++ table.inBucket index second :=
  List.filter_append _ _

/-- The bucket that an event works on. -/
theorem shape_bucketStep {original : KRoutingTable} {bucket : KBucket}
    {index : Fin kBucketCount} {event : Event} {coming : List Event}
    {waiting answered : List KNode} (hnodup : (bucket.nodes.map KNode.id).Nodup)
    (hplace : original.calcBranchIndex event.node = index)
    (hallows : InRound.Allows original event)
    (hnodes : bucket.nodes.filter original.isExist =
      waiting ++ original.inBucket index answered)
    (hwaiting : waiting.Perm
      (original.inBucket index ((event :: coming).filterMap Event.outcome))) :
    ∃ others : List KNode,
      (bucketStep bucket event).nodes.filter original.isExist =
        others ++ original.inBucket index (answered ++ event.answer.toList) ∧
      others.Perm (original.inBucket index (coming.filterMap Event.outcome)) := by
  cases event with
  | autoUpdate kn =>
      have hunknown : ∀ other : KNode, other.id = kn.id →
          original.isExist other = false := by
        intro other hid
        rw [isExist_congr original hid]
        exact hallows kn rfl
      refine ⟨waiting, ?_, hwaiting⟩
      rw [bucketStep, KBucket.nodes_autoUpdate, Recency.filter_learn hnodup hunknown,
        hnodes, Event.answer, Option.toList_none, List.append_nil]
  | moveBack kn =>
      have hindex : original.calcBranchIndex kn = index := hplace
      have hnext : waiting.Perm
          (kn :: original.inBucket index (coming.filterMap Event.outcome)) := by
        rw [← inBucket_cons_of_eq hindex]
        exact hwaiting
      obtain ⟨hsingle, others, hothers, hperm⟩ := filter_waiting hnodup hnodes hnext
      have hanswer : original.inBucket index [kn] = [kn] := inBucket_cons_of_eq hindex []
      refine ⟨others, ?_, hperm⟩
      rw [bucketStep, KBucket.nodes_moveBack, Recency.touch_eq_filter hnodup,
        List.filter_append, hothers, hsingle, inBucket_append, Event.answer,
        Option.toList_some, hanswer, List.append_assoc]
  | deleteNode kn =>
      have hindex : original.calcBranchIndex kn = index := hplace
      have hnext : waiting.Perm
          (kn :: original.inBucket index (coming.filterMap Event.outcome)) := by
        rw [← inBucket_cons_of_eq hindex]
        exact hwaiting
      obtain ⟨-, others, hothers, hperm⟩ := filter_waiting hnodup hnodes hnext
      refine ⟨others, ?_, hperm⟩
      rw [bucketStep, KBucket.nodes_deleteNode, Recency.forget_eq_filter hnodup, hothers,
        Event.answer, Option.toList_none, List.append_nil]

/-- The other buckets. -/
theorem InRound.shape_step_of_ne {original table : KRoutingTable} {event : Event}
    {coming : List Event} {answered : List KNode} {index : Fin kBucketCount}
    (hround : InRound original table (event :: coming) answered)
    (hindex : index ≠ table.calcBranchIndex event.node) :
    ∃ waiting : List KNode,
      ((table.step event).bucketAt index).nodes.filter original.isExist =
        waiting ++ original.inBucket index (answered ++ event.answer.toList) ∧
      waiting.Perm (original.inBucket index (coming.filterMap Event.outcome)) := by
  obtain ⟨waiting, hnodes, hwaiting⟩ := hround.shape index
  have hplace : original.calcBranchIndex event.node ≠ index := by
    rw [← calcBranchIndex_of_selfId hround.selfId]
    exact hindex.symm
  have hcoming : original.inBucket index ((event :: coming).filterMap Event.outcome) =
      original.inBucket index (coming.filterMap Event.outcome) := by
    cases event with
    | autoUpdate kn => rfl
    | moveBack kn => exact inBucket_cons_of_ne hplace _
    | deleteNode kn => exact inBucket_cons_of_ne hplace _
  have hanswered : original.inBucket index event.answer.toList = [] := by
    cases event with
    | autoUpdate kn => rfl
    | moveBack kn => exact inBucket_cons_of_ne hplace []
    | deleteNode kn => rfl
  refine ⟨waiting, ?_, hcoming ▸ hwaiting⟩
  rw [bucketAt_step_of_ne table event hindex, inBucket_append, hanswered, List.append_nil]
  exact hnodes

/-- One event of a round. -/
theorem InRound.step {original table : KRoutingTable} {event : Event}
    {coming : List Event} {answered : List KNode}
    (hround : InRound original table (event :: coming) answered)
    (hallows : InRound.Allows original event) :
    InRound original (table.step event) coming (answered ++ event.answer.toList) := by
  obtain ⟨abstract, hrefines⟩ := hround.refines
  have hnodup : ∀ index, ((table.bucketAt index).nodes.map KNode.id).Nodup := by
    intro index
    rw [hrefines index]
    exact (abstract index).nodup_keys
  refine ⟨?_, placed_step hround.placed event, ⟨_, refines_step hrefines event⟩, ?_⟩
  · rw [step_eq]
    exact hround.selfId
  · intro index
    by_cases hindex : index = table.calcBranchIndex event.node
    · subst hindex
      obtain ⟨waiting, hnodes, hwaiting⟩ :=
        hround.shape (table.calcBranchIndex event.node)
      rw [step_eq, bucketAt_setBucket_self]
      exact shape_bucketStep (hnodup _)
        (calcBranchIndex_of_selfId hround.selfId.symm event.node) hallows hnodes hwaiting
    · exact hround.shape_step_of_ne hindex

theorem InRound.execute {original table : KRoutingTable} {events : List Event}
    {answered : List KNode} (hround : InRound original table events answered)
    (hallows : ∀ event ∈ events, InRound.Allows original event) :
    InRound original (events.foldl KRoutingTable.step table) []
      (answered ++ events.filterMap Event.answer) := by
  induction events generalizing table answered with
  | nil => simpa using hround
  | cons event events ih =>
      have hnext := ih (hround.step (hallows event List.mem_cons_self))
        fun other hother => hallows other (List.mem_cons_of_mem event hother)
      have hanswers : event.answer.toList ++ events.filterMap Event.answer =
          (event :: events).filterMap Event.answer := by
        cases event <;> rfl
      rw [List.append_assoc, hanswers] at hnext
      exact hnext

/-- Among all stored nodes, the ones that belong into a bucket are the ones in it. -/
theorem inBucket_allNodes {table : KRoutingTable} (hplaced : table.Placed)
    (index : Fin kBucketCount) :
    table.inBucket index table.allNodes = (table.bucketAt index).nodes := by
  have hbucket : ∀ other, table.inBucket index (table.bucketAt other).nodes =
      if other = index then (table.bucketAt index).nodes else [] := by
    intro other
    split_ifs with hother
    · subst hother
      rw [inBucket, List.filter_eq_self]
      intro kn hkn
      exact decide_eq_true (hplaced other kn hkn)
    · rw [inBucket, List.filter_eq_nil_iff]
      intro kn hkn
      rw [decide_eq_true_eq, hplaced other kn hkn]
      exact hother
  have hflat : ∀ indices : List (Fin kBucketCount), indices.Nodup →
      table.inBucket index (indices.flatMap fun other => (table.bucketAt other).nodes) =
        if index ∈ indices then (table.bucketAt index).nodes else [] := by
    intro indices hindices
    induction indices with
    | nil => rfl
    | cons head tail ih =>
        obtain ⟨hhead, htail⟩ := List.nodup_cons.mp hindices
        rw [List.flatMap_cons, inBucket_append, hbucket, ih htail]
        by_cases hhere : head = index
        · subst hhere
          simp [hhead]
        · simp [hhere, Ne.symm hhere]
  rw [← map_node_entriesFrom_zero, entriesFrom, List.drop_zero, List.map_flatMap]
  have hnodes := hflat (List.finRange kBucketCount) (List.nodup_finRange _)
  rw [if_pos (List.mem_finRange index)] at hnodes
  rw [← hnodes]
  congr 1
  simp [KBucket.getNodes, Function.comp_def]

/-- A round starts with every node waiting for its outcome. -/
theorem inRound_start {table : KRoutingTable} {events : List Event}
    (hplaced : table.Placed) (hrefines : ∃ abstract, table.Refines abstract)
    (houtcomes : (events.filterMap Event.outcome).Perm table.allNodes) :
    InRound table table events [] where
  selfId := rfl
  placed := hplaced
  refines := hrefines
  shape index := by
    refine ⟨(table.bucketAt index).nodes, ?_, ?_⟩
    · rw [inBucket, List.filter_nil, List.append_nil, List.filter_eq_self]
      intro kn hkn
      rw [isExist_iff_stored hplaced]
      exact ⟨index, List.mem_map_of_mem hkn⟩
    · rw [← inBucket_allNodes hplaced index]
      exact (houtcomes.filter _).symm

/-- After a round the original nodes of a bucket are the ones that answered, in the
order of their pongs. -/
theorem filter_isExist_of_round {table : KRoutingTable} {events : List Event}
    (hplaced : table.Placed) (hrefines : ∃ abstract, table.Refines abstract)
    (houtcomes : (events.filterMap Event.outcome).Perm table.allNodes)
    (hallows : ∀ event ∈ events, InRound.Allows table event) (index : Fin kBucketCount) :
    ((events.foldl step table).bucketAt index).nodes.filter table.isExist =
      table.inBucket index (events.filterMap Event.answer) := by
  have hround := (inRound_start hplaced hrefines houtcomes).execute hallows
  obtain ⟨waiting, hnodes, hwaiting⟩ := hround.shape index
  obtain rfl : waiting = [] := hwaiting.eq_nil
  exact hnodes

/-- A node that was not deleted stays. -/
theorem stored_step {table : KRoutingTable} {event : Event} {kn : KNode}
    (hstored : table.Stored kn) (hkept : ∀ other, event = .deleteNode other →
      other.id ≠ kn.id) : (table.step event).Stored kn := by
  obtain ⟨index, hmem⟩ := hstored
  obtain ⟨stored, hnode, hid⟩ := List.mem_map.mp hmem
  refine ⟨index, List.mem_map.mpr ⟨stored, ?_, hid⟩⟩
  by_cases hindex : index = table.calcBranchIndex event.node
  · subst hindex
    rw [step_eq, bucketAt_setBucket_self]
    cases event with
    | autoUpdate other =>
        rw [bucketStep, KBucket.nodes_autoUpdate]
        exact Recency.mem_learn_of_mem hnode
    | moveBack other =>
        rw [bucketStep, KBucket.nodes_moveBack]
        exact Recency.mem_touch_iff.mpr hnode
    | deleteNode other =>
        rw [bucketStep, KBucket.nodes_deleteNode]
        exact Recency.mem_forget_of_mem hnode (hid ▸ (hkept other rfl).symm)
  · rw [bucketAt_step_of_ne table event hindex]
    exact hnode

theorem stored_foldl_step {table : KRoutingTable} {events : List Event} {kn : KNode}
    (hstored : table.Stored kn) (hkept : ∀ other, .deleteNode other ∈ events →
      other.id ≠ kn.id) : (events.foldl step table).Stored kn := by
  induction events generalizing table with
  | nil => exact hstored
  | cons event events ih =>
      apply ih
      · exact stored_step hstored fun other heq => hkept other (heq ▸ List.mem_cons_self)
      · exact fun other hother => hkept other (List.mem_cons_of_mem event hother)

end KRoutingTable

structure RefreshPing where
  id : Uuid
  index : Fin kBucketCount
  node : KNode

namespace DhtLoop

variable (platform : Platform)

/-- What happens between a refresh and its end: the handlers of the pings run, and
`auto_update` is called. -/
inductive RefreshEvent where
  | pong (ping : RefreshPing)
  | timeout (ping : RefreshPing)
  | autoUpdate (ep : Endpoint)

namespace RefreshEvent

def ping : RefreshEvent → Option RefreshPing
  | pong ping | timeout ping => some ping
  | autoUpdate _ => none

def answered : RefreshEvent → Option RefreshPing
  | pong ping => some ping
  | timeout _ | autoUpdate _ => none

def onTable : RefreshEvent → KRoutingTable.Event
  | pong ping => .moveBack ping.node
  | timeout ping => .deleteNode ping.node
  | autoUpdate ep => .autoUpdate (KNode.ofEndpoint platform ep)

end RefreshEvent

/-- One such event; the handlers of these pings draw no id. -/
def refreshStep (loop : DhtLoop) : RefreshEvent → Option DhtLoop
  | .pong ping => runCallback platform loop ping.id (.pongHandler ping.id)
  | .timeout ping => runCallback platform loop ping.id (.timeoutHandler ping.id)
  | .autoUpdate ep =>
      some (loop.withTable (loop.table.autoUpdateEndpoint platform ep))

def pingsOf (ids : List Uuid) (entries : List (Fin kBucketCount × KNode)) :
    List RefreshPing :=
  List.zipWith (fun id entry => ⟨id, entry.1, entry.2⟩) ids entries

/-- Every ping has exactly one outcome, and other nodes at most are added. -/
structure Complete (pinged : DhtLoop) (pings : List RefreshPing)
    (events : List RefreshEvent) : Prop where
  outcomes : (events.filterMap RefreshEvent.ping).Perm pings
  others : ∀ ep, .autoUpdate ep ∈ events →
    ¬ pinged.table.Stored (KNode.ofEndpoint platform ep)

/-- After a round exactly the nodes that answered are left of the nodes it pinged, and
what was added meanwhile stays. -/
structure KeepsLive (pinged last : DhtLoop) (events : List RefreshEvent) : Prop where
  answered : ∀ ping, .pong ping ∈ events →
    ping.node ∈ (last.table.bucketAt ping.index).nodes
  inOrder : ∀ index, (last.table.bucketAt index).nodes.filter pinged.table.isExist =
    ((events.filterMap RefreshEvent.answered).filter
      fun ping => decide (ping.index = index)).map RefreshPing.node
  gone : ∀ ping, .timeout ping ∈ events → ¬ last.table.Stored ping.node
  kept : ∀ before ep after middle, events = before ++ .autoUpdate ep :: after →
    Runs.execute (refreshStep platform) pinged (before ++ [.autoUpdate ep]) =
      some middle →
    middle.table.Stored (KNode.ofEndpoint platform ep) →
    last.table.Stored (KNode.ofEndpoint platform ep)
  invariant : last.table.Invariant

/-- The observer of a ping is stored with the handlers of the refresh. -/
def Pinged (loop : DhtLoop) (ping : RefreshPing) : Prop :=
  ∃ obs, loop.strage.pings.find ping.id = some obs ∧
    obs.pongHandler = .moveBack ping.index ping.node ∧
    obs.timeoutHandler = .deleteNode ping.index ping.node

def RefreshPing.request (ping : RefreshPing) : Outgoing :=
  ⟨ping.node.ep, .ofPart "kademlia" (KMessage.pingRequestBody platform ping.id)⟩

def tableAfter (pinged : DhtLoop) (events : List RefreshEvent) : KRoutingTable :=
  (events.map (RefreshEvent.onTable platform)).foldl KRoutingTable.step pinged.table

variable {platform}

/-! ## Sending the pings -/

variable (platform) in
theorem exists_refreshPing (ping : RefreshPing) {loop : DhtLoop}
    (hissued : ping.id ∉ loop.issued) (hfresh : loop.strage.pings.find ping.id = none) :
    ∃ next, refreshPing platform ping.id (ping.index, ping.node) loop = some next ∧
      next.io.sent = loop.io.sent ++ [RefreshPing.request platform ping] ∧
      next.issued = ping.id :: loop.issued ∧ next.Pinged ping ∧
      ∀ id, id ≠ ping.id → next.strage.pings.find id = loop.strage.pings.find id := by
  let obs := loop.startedPing ping.id ping.node.ep (.moveBack ping.index ping.node)
    (.deleteNode ping.index ping.node)
  have hinsert := KeyedList.find_insert_self loop.strage.pings obs
  rw [show obs.id = ping.id from rfl, hfresh, Option.getD_none] at hinsert
  rw [refreshPing, pingRequest, if_neg hissued, RpcManager.pingRequest_eq]
  refine ⟨_, rfl, rfl, rfl, ⟨obs, hinsert, rfl, rfl⟩, ?_⟩
  intro id hid
  exact KeyedList.find_insert_of_ne loop.strage.pings hid.symm

variable (platform) in
/-- With fresh ids all pings can be sent, in their order. -/
theorem exists_refreshPings {entries : List (Fin kBucketCount × KNode)} :
    ∀ {ids : List Uuid} {loop : DhtLoop}, ids.length = entries.length → ids.Nodup →
      (∀ id ∈ ids, id ∉ loop.issued ∧ loop.strage.pings.find id = none) →
      ∃ last, Supply.forEach (refreshPing platform) entries ids loop = some (last, []) ∧
        last.io.sent = loop.io.sent ++
          (pingsOf ids entries).map (RefreshPing.request platform) ∧
        (∀ ping ∈ pingsOf ids entries, last.Pinged ping) ∧
        ∀ id, id ∉ ids → last.strage.pings.find id = loop.strage.pings.find id := by
  induction entries with
  | nil =>
      intro ids loop hlength hnodup hfresh
      obtain rfl := List.length_eq_zero_iff.mp hlength
      refine ⟨loop, rfl, ?_, ?_, fun _ _ => rfl⟩
      · simp [pingsOf]
      · simp [pingsOf]
  | cons entry entries ih =>
      intro ids loop hlength hnodup hfresh
      cases ids with
      | nil => cases hlength
      | cons id ids =>
          obtain ⟨hnotMem, hnodup⟩ := List.nodup_cons.mp hnodup
          obtain ⟨hissued, hunused⟩ := hfresh id List.mem_cons_self
          obtain ⟨next, hping, hsent, hdrawn, hpinged, hothers⟩ :=
            exists_refreshPing platform ⟨id, entry.1, entry.2⟩ hissued hunused
          obtain ⟨last, heach, hsentAll, hpingedAll, hothersAll⟩ :=
            ih (Nat.succ.inj hlength) hnodup (by
              intro other hother
              have hne : other ≠ id := fun heq => hnotMem (heq ▸ hother)
              obtain ⟨hotherIssued, hotherUnused⟩ :=
                hfresh other (List.mem_cons_of_mem id hother)
              rw [hdrawn, hothers other hne]
              exact ⟨List.not_mem_cons_of_ne_of_not_mem hne hotherIssued, hotherUnused⟩)
          refine ⟨last, ?_, ?_, ?_, ?_⟩
          · rw [Supply.forEach, hping, Option.bind_some]
            exact heach
          · rw [hsentAll, hsent, List.append_assoc]
            rfl
          · intro ping hmem
            cases List.mem_cons.mp hmem with
            | inl heq =>
                obtain ⟨obs, hfind, hhandlers⟩ := hpinged
                rw [heq]
                exact ⟨obs, (hothersAll id hnotMem).trans hfind, hhandlers⟩
            | inr hrest => exact hpingedAll ping hrest
          · intro other hother
            rw [List.mem_cons, not_or] at hother
            rw [hothersAll other hother.2, hothers other hother.1]

theorem map_node_pingsOf {ids : List Uuid} {entries : List (Fin kBucketCount × KNode)}
    (hlength : ids.length = entries.length) :
    (pingsOf ids entries).map RefreshPing.node = entries.map Prod.snd := by
  calc (pingsOf ids entries).map RefreshPing.node
      = ((ids.zip entries).map Prod.snd).map Prod.snd := by
        rw [pingsOf, ← List.map_uncurry_zip_eq_zipWith, List.map_map, List.map_map]
        rfl
    _ = entries.map Prod.snd := by
        rw [List.map_snd_zip (Nat.le_of_eq hlength.symm)]

theorem map_id_pingsOf {ids : List Uuid} {entries : List (Fin kBucketCount × KNode)}
    (hlength : ids.length = entries.length) :
    (pingsOf ids entries).map RefreshPing.id = ids := by
  calc (pingsOf ids entries).map RefreshPing.id
      = (ids.zip entries).map Prod.fst := by
        rw [pingsOf, ← List.map_uncurry_zip_eq_zipWith, List.map_map]
        rfl
    _ = ids := List.map_fst_zip (Nat.le_of_eq hlength)

/-- A ping works on the bucket that its node was found in. -/
theorem mem_pingsOf {ids : List Uuid} {entries : List (Fin kBucketCount × KNode)}
    {ping : RefreshPing} (hping : ping ∈ pingsOf ids entries) :
    (ping.index, ping.node) ∈ entries := by
  obtain ⟨position, hposition, rfl⟩ := List.mem_iff_getElem.mp hping
  simp only [pingsOf, List.getElem_zipWith]
  exact List.getElem_mem _

/-! ## The outcomes -/

variable (platform) in
/-- An outcome does to the table what its event says, and keeps the observers. -/
theorem exists_refreshStep {loop : DhtLoop} {event : RefreshEvent}
    (hevent : ∀ ping, event.ping = some ping →
      loop.Pinged ping ∧ loop.table.calcBranchIndex ping.node = ping.index) :
    ∃ next, loop.refreshStep platform event = some next ∧
      next.table = loop.table.step (event.onTable platform) ∧
      next.strage = loop.strage := by
  cases event with
  | autoUpdate ep => exact ⟨_, rfl, rfl, rfl⟩
  | pong ping =>
      obtain ⟨⟨obs, hfind, hpong, -⟩, hindex⟩ := hevent ping rfl
      have hinvoke : (loop.log (.pong ping.id obs.destEp)).invoke platform obs.pongHandler
          obs.destEp ping.id = some ((loop.log (.pong ping.id obs.destEp)).withTable
            (loop.table.setBucket ping.index
              ((loop.table.bucketAt ping.index).moveBack ping.node))) := by
        rw [hpong]
        rfl
      refine ⟨_, Option.bind_eq_some_iff.mpr ⟨obs, hfind, hinvoke⟩, ?_, rfl⟩
      rw [RefreshEvent.onTable, KRoutingTable.step, KRoutingTable.moveBack,
        KRoutingTable.getBucket, hindex]
      rfl
  | timeout ping =>
      obtain ⟨⟨obs, hfind, -, htimeout⟩, hindex⟩ := hevent ping rfl
      have hinvoke : (loop.log (.timeout ping.id obs.destEp)).invoke platform
          obs.timeoutHandler obs.destEp ping.id =
            some ((loop.log (.timeout ping.id obs.destEp)).withTable
              (loop.table.setBucket ping.index
                ((loop.table.bucketAt ping.index).deleteNode ping.node))) := by
        rw [htimeout]
        rfl
      refine ⟨_, Option.bind_eq_some_iff.mpr ⟨obs, hfind, hinvoke⟩, ?_, rfl⟩
      rw [RefreshEvent.onTable, KRoutingTable.step, KRoutingTable.deleteNode,
        KRoutingTable.getBucket, hindex]
      rfl

/-- Every round can be run, and the table goes through its events. -/
theorem exists_execute_refreshStep {events : List RefreshEvent} :
    ∀ {loop : DhtLoop}, (∀ ping ∈ events.filterMap RefreshEvent.ping,
        loop.Pinged ping ∧ loop.table.calcBranchIndex ping.node = ping.index) →
      ∃ last, Runs.execute (refreshStep platform) loop events = some last ∧
        last.table = tableAfter platform loop events := by
  induction events with
  | nil => exact fun _ => ⟨_, rfl, rfl⟩
  | cons event events ih =>
      intro loop hpings
      obtain ⟨next, hstep, htable, hstrage⟩ := exists_refreshStep platform
        fun ping hping => hpings ping
          (List.mem_filterMap.mpr ⟨event, List.mem_cons_self, hping⟩)
      have hselfId : next.table.selfId = loop.table.selfId := by
        rw [htable, KRoutingTable.step_eq]
        rfl
      obtain ⟨last, hrun, hlast⟩ := ih fun ping hping => by
        obtain ⟨source, hsource, hping⟩ := List.mem_filterMap.mp hping
        obtain ⟨hpinged, hindex⟩ := hpings ping
          (List.mem_filterMap.mpr ⟨source, List.mem_cons_of_mem event hsource, hping⟩)
        rw [Pinged, hstrage, KRoutingTable.calcBranchIndex_of_selfId hselfId]
        exact ⟨hpinged, hindex⟩
      refine ⟨last, Runs.execute_cons_eq_some.mpr ⟨next, hstep, hrun⟩, ?_⟩
      rw [hlast, tableAfter, htable]
      rfl

/-! ## The round as a whole -/

/-- The pings of a refresh of a reachable table were sent. -/
structure Refreshed (selfId : NodeId) (history : List KRoutingTable.Event)
    (pinged : DhtLoop) (pings : List RefreshPing) : Prop where
  table : pinged.table = KRoutingTable.afterEvents selfId history
  nodes : pings.map RefreshPing.node = pinged.table.allNodes
  stored : ∀ ping ∈ pings, ping.node ∈ (pinged.table.bucketAt ping.index).nodes
  pinged : ∀ ping ∈ pings, pinged.Pinged ping

namespace Refreshed

variable {selfId : NodeId} {history : List KRoutingTable.Event} {pinged last : DhtLoop}
  {pings : List RefreshPing} {events : List RefreshEvent}

theorem placed (hrefreshed : Refreshed selfId history pinged pings) :
    pinged.table.Placed := by
  rw [hrefreshed.table]
  exact (KRoutingTable.afterEvents_refines_and_placed selfId history).2

theorem refines (hrefreshed : Refreshed selfId history pinged pings) :
    ∃ abstract, pinged.table.Refines abstract := by
  rw [hrefreshed.table]
  exact (KRoutingTable.afterEvents_refines_and_placed selfId history).1

theorem index_eq (hrefreshed : Refreshed selfId history pinged pings) {ping : RefreshPing}
    (hping : ping ∈ pings) : pinged.table.calcBranchIndex ping.node = ping.index :=
  hrefreshed.placed ping.index ping.node (hrefreshed.stored ping hping)

theorem isStored (hrefreshed : Refreshed selfId history pinged pings) {ping : RefreshPing}
    (hping : ping ∈ pings) : pinged.table.Stored ping.node :=
  ⟨ping.index, List.mem_map_of_mem (hrefreshed.stored ping hping)⟩

/-- Pings of one round with the same node id are the same. -/
theorem eq_of_id (hrefreshed : Refreshed selfId history pinged pings)
    {left right : RefreshPing} (hleft : left ∈ pings) (hright : right ∈ pings)
    (hid : left.node.id = right.node.id) : left = right := by
  have hnodup : (pings.map fun ping => ping.node.id).Nodup := by
    have hunique := (KRoutingTable.invariant_of_refines hrefreshed.refines.choose_spec
      hrefreshed.placed).unique
    rw [← hrefreshed.nodes, List.map_map] at hunique
    exact hunique
  exact List.inj_on_of_nodup_map hnodup hleft hright hid

variable (platform) in
theorem exists_last (hrefreshed : Refreshed selfId history pinged pings)
    (hpings : ∀ ping ∈ events.filterMap RefreshEvent.ping, ping ∈ pings) :
    ∃ last, Runs.execute (refreshStep platform) pinged events = some last ∧
      last.table = tableAfter platform pinged events :=
  exists_execute_refreshStep fun ping hping =>
    ⟨hrefreshed.pinged ping (hpings ping hping), hrefreshed.index_eq (hpings ping hping)⟩

theorem filterMap_outcome_onTable (events : List RefreshEvent) :
    (events.map (RefreshEvent.onTable platform)).filterMap KRoutingTable.Event.outcome =
      (events.filterMap RefreshEvent.ping).map RefreshPing.node := by
  rw [List.filterMap_map, List.map_filterMap]
  congr 1
  funext event
  cases event <;> rfl

theorem filterMap_answer_onTable (events : List RefreshEvent) :
    (events.map (RefreshEvent.onTable platform)).filterMap KRoutingTable.Event.answer =
      (events.filterMap RefreshEvent.answered).map RefreshPing.node := by
  rw [List.filterMap_map, List.map_filterMap]
  congr 1
  funext event
  cases event <;> rfl

theorem mem_ping_of_answered {ping : RefreshPing}
    (hping : ping ∈ events.filterMap RefreshEvent.answered) :
    ping ∈ events.filterMap RefreshEvent.ping := by
  obtain ⟨event, hevent, hanswered⟩ := List.mem_filterMap.mp hping
  refine List.mem_filterMap.mpr ⟨event, hevent, ?_⟩
  cases event with
  | pong other => exact hanswered
  | timeout other => cases hanswered
  | autoUpdate ep => cases hanswered

theorem mem_pings_of_complete (hcomplete : Complete platform pinged pings events)
    {ping : RefreshPing} (hping : ping ∈ events.filterMap RefreshEvent.ping) :
    ping ∈ pings :=
  hcomplete.outcomes.mem_iff.mp hping

/-- What is added meanwhile is none of the pinged nodes. -/
theorem allows_of_complete (hrefreshed : Refreshed selfId history pinged pings)
    (hcomplete : Complete platform pinged pings events) :
    ∀ event ∈ events.map (RefreshEvent.onTable platform),
      KRoutingTable.InRound.Allows pinged.table event := by
  intro tableEvent htableEvent kn hadds
  obtain ⟨event, hevent, rfl⟩ := List.mem_map.mp htableEvent
  cases event with
  | pong ping => cases hadds
  | timeout ping => cases hadds
  | autoUpdate ep =>
      cases hadds
      rw [← Bool.not_eq_true, KRoutingTable.isExist_iff_stored hrefreshed.placed]
      exact hcomplete.others ep hevent

/-- The pinged nodes of a bucket that are left are the ones that answered. -/
theorem inOrder_of_complete (hrefreshed : Refreshed selfId history pinged pings)
    (hcomplete : Complete platform pinged pings events) (index : Fin kBucketCount) :
    ((tableAfter platform pinged events).bucketAt index).nodes.filter
        pinged.table.isExist =
      ((events.filterMap RefreshEvent.answered).filter
        fun ping => decide (ping.index = index)).map RefreshPing.node := by
  have houtcomes : ((events.map (RefreshEvent.onTable platform)).filterMap
      KRoutingTable.Event.outcome).Perm pinged.table.allNodes := by
    rw [filterMap_outcome_onTable, ← hrefreshed.nodes]
    exact hcomplete.outcomes.map RefreshPing.node
  rw [tableAfter, KRoutingTable.filter_isExist_of_round hrefreshed.placed
    hrefreshed.refines houtcomes (allows_of_complete hrefreshed hcomplete) index,
    filterMap_answer_onTable, KRoutingTable.inBucket, List.filter_map]
  congr 1
  apply List.filter_congr
  intro ping hping
  have hmem := mem_pings_of_complete hcomplete (mem_ping_of_answered hping)
  rw [Function.comp_apply, hrefreshed.index_eq hmem]

theorem answered_of_complete (hrefreshed : Refreshed selfId history pinged pings)
    (hcomplete : Complete platform pinged pings events) {ping : RefreshPing}
    (hpong : .pong ping ∈ events) :
    ping.node ∈ ((tableAfter platform pinged events).bucketAt ping.index).nodes := by
  apply List.mem_of_mem_filter
  rw [inOrder_of_complete hrefreshed hcomplete]
  apply List.mem_map_of_mem
  rw [List.mem_filter]
  exact ⟨List.mem_filterMap.mpr ⟨_, hpong, rfl⟩, decide_eq_true rfl⟩

/-- No ping has two outcomes. -/
theorem not_pong_of_timeout (hrefreshed : Refreshed selfId history pinged pings)
    (hcomplete : Complete platform pinged pings events) {ping : RefreshPing}
    (htimeout : .timeout ping ∈ events) : .pong ping ∉ events := by
  intro hpong
  have hnodup : (events.filterMap RefreshEvent.ping).Nodup := by
    rw [hcomplete.outcomes.nodup_iff]
    apply List.Nodup.of_map RefreshPing.node
    rw [hrefreshed.nodes]
    exact List.Nodup.of_map KNode.id (KRoutingTable.invariant_of_refines
      hrefreshed.refines.choose_spec hrefreshed.placed).unique
  have hpairs := List.pairwise_filterMap.mp hnodup
  have hsymm : Std.Symm fun left right : RefreshEvent =>
      ∀ first, left.ping = some first → ∀ second, right.ping = some second →
        first ≠ second :=
    ⟨fun _ _ hne first hfirst second hsecond => (hne second hsecond first hfirst).symm⟩
  have hdistinct : RefreshEvent.timeout ping ≠ .pong ping := fun heq => nomatch heq
  exact hpairs.forall htimeout hpong hdistinct ping rfl ping rfl rfl

theorem gone_of_complete (hrefreshed : Refreshed selfId history pinged pings)
    (hcomplete : Complete platform pinged pings events) {ping : RefreshPing}
    (htimeout : .timeout ping ∈ events) :
    ¬ (tableAfter platform pinged events).Stored ping.node := by
  rintro ⟨index, hstored⟩
  obtain ⟨kn, hkn, hid⟩ := List.mem_map.mp hstored
  have hping : ping ∈ pings :=
    mem_pings_of_complete hcomplete (List.mem_filterMap.mpr ⟨_, htimeout, rfl⟩)
  have hexist : pinged.table.isExist kn = true := by
    rw [KRoutingTable.isExist_congr _ hid,
      KRoutingTable.isExist_iff_stored hrefreshed.placed]
    exact hrefreshed.isStored hping
  have hleft := List.mem_filter.mpr ⟨hkn, hexist⟩
  rw [inOrder_of_complete hrefreshed hcomplete index] at hleft
  obtain ⟨other, hother, rfl⟩ := List.mem_map.mp hleft
  have hanswered := List.mem_of_mem_filter hother
  have heq : other = ping := hrefreshed.eq_of_id
    (mem_pings_of_complete hcomplete (mem_ping_of_answered hanswered)) hping hid
  subst heq
  obtain ⟨event, hevent, hpong⟩ := List.mem_filterMap.mp hanswered
  cases event with
  | pong answered =>
      cases hpong
      exact not_pong_of_timeout hrefreshed hcomplete htimeout hevent
  | timeout _ => cases hpong
  | autoUpdate _ => cases hpong

/-- What was added meanwhile is deleted by no handler of the round. -/
theorem kept_of_complete (hrefreshed : Refreshed selfId history pinged pings)
    (hcomplete : Complete platform pinged pings events)
    {before after : List RefreshEvent} {ep : Endpoint}
    (hevents : events = before ++ .autoUpdate ep :: after)
    (hstored : (tableAfter platform pinged (before ++ [.autoUpdate ep])).Stored
      (KNode.ofEndpoint platform ep)) :
    (tableAfter platform pinged events).Stored (KNode.ofEndpoint platform ep) := by
  have hsplit : tableAfter platform pinged events =
      (after.map (RefreshEvent.onTable platform)).foldl KRoutingTable.step
        (tableAfter platform pinged (before ++ [.autoUpdate ep])) := by
    rw [tableAfter, tableAfter, ← List.foldl_append, ← List.map_append, hevents,
      List.append_assoc, List.singleton_append]
  rw [hsplit]
  apply KRoutingTable.stored_foldl_step hstored
  intro kn hdelete hid
  obtain ⟨event, hevent, hon⟩ := List.mem_map.mp hdelete
  cases event with
  | pong ping => cases hon
  | autoUpdate other => cases hon
  | timeout ping =>
      cases hon
      have hmem : .timeout ping ∈ events := by
        rw [hevents]
        exact List.mem_append_right before (List.mem_cons_of_mem _ hevent)
      have hping : ping ∈ pings :=
        mem_pings_of_complete hcomplete (List.mem_filterMap.mpr ⟨_, hmem, rfl⟩)
      apply hcomplete.others ep (hevents ▸ List.mem_append_right before List.mem_cons_self)
      rw [KRoutingTable.Stored, ← hid]
      exact hrefreshed.isStored hping

theorem invariant_tableAfter (hrefreshed : Refreshed selfId history pinged pings)
    (events : List RefreshEvent) : (tableAfter platform pinged events).Invariant := by
  have hhistory : tableAfter platform pinged events = KRoutingTable.afterEvents selfId
      (history ++ events.map (RefreshEvent.onTable platform)) := by
    rw [tableAfter, hrefreshed.table, KRoutingTable.afterEvents,
      KRoutingTable.afterEvents, List.foldl_append]
  rw [hhistory]
  obtain ⟨⟨abstract, hrefines⟩, hplaced⟩ := KRoutingTable.afterEvents_refines_and_placed
    selfId (history ++ events.map (RefreshEvent.onTable platform))
  exact KRoutingTable.invariant_of_refines hrefines hplaced

/-- A complete round can be run, and keeps exactly the nodes that answered. -/
theorem keepsLive (hrefreshed : Refreshed selfId history pinged pings)
    (hcomplete : Complete platform pinged pings events) :
    ∃ last, Runs.execute (refreshStep platform) pinged events = some last ∧
      KeepsLive platform pinged last events := by
  have hpings : ∀ ping ∈ events.filterMap RefreshEvent.ping, ping ∈ pings :=
    fun ping => mem_pings_of_complete hcomplete
  obtain ⟨last, hrun, hlast⟩ := hrefreshed.exists_last platform hpings
  refine ⟨last, hrun, ?_, ?_, ?_, ?_, ?_⟩
  · intro ping hpong
    rw [hlast]
    exact answered_of_complete hrefreshed hcomplete hpong
  · intro index
    rw [hlast]
    exact inOrder_of_complete hrefreshed hcomplete index
  · intro ping htimeout
    rw [hlast]
    exact gone_of_complete hrefreshed hcomplete htimeout
  · intro before ep after middle hevents hmiddle hstored
    have hprefix : ∀ ping ∈
        (before ++ [RefreshEvent.autoUpdate ep]).filterMap RefreshEvent.ping,
        ping ∈ pings := by
      intro ping hping
      apply hpings
      obtain ⟨event, hevent, hof⟩ := List.mem_filterMap.mp hping
      refine List.mem_filterMap.mpr ⟨event, ?_, hof⟩
      rw [hevents, ← List.singleton_append, ← List.append_assoc]
      exact List.mem_append_left after hevent
    obtain ⟨reached, hreached, hreachedTable⟩ := hrefreshed.exists_last platform hprefix
    obtain rfl : reached = middle := Option.some.inj (hreached.symm.trans hmiddle)
    rw [hlast]
    exact kept_of_complete hrefreshed hcomplete hevents (hreachedTable ▸ hstored)
  · rw [hlast]
    exact invariant_tableAfter hrefreshed events

end Refreshed

/-- What a refresh of a loop does: it pings every stored node once, and when each of
these pings had its outcome exactly the nodes that answered are left of them. -/
structure RefreshRound (platform : Platform) (loop : DhtLoop) (ids : List Uuid)
    (pings : List RefreshPing) (pinged : DhtLoop) : Prop where
  refresh : loop.sendRefreshPing platform ids = some (pinged, [])
  oneEach : pings.map RefreshPing.node = loop.table.allNodes
  ids : pings.map RefreshPing.id = ids
  sent : pinged.io.sent = loop.io.sent ++ pings.map (RefreshPing.request platform)
  keepsLive : ∀ events, Complete platform pinged pings events →
    ∃ last, Runs.execute (refreshStep platform) pinged events = some last ∧
      KeepsLive platform pinged last events

/-- A refresh round keeps exactly the live nodes. -/
theorem exists_refreshRound (platform : Platform) {selfId : NodeId}
    {history : List KRoutingTable.Event} {loop : DhtLoop} {ids : List Uuid}
    (htable : loop.table = KRoutingTable.afterEvents selfId history)
    (hcount : ids.length = loop.table.getNodeCount) (hnodup : ids.Nodup)
    (hfresh : ∀ id ∈ ids, id ∉ loop.issued ∧ loop.strage.pings.find id = none) :
    ∃ pings pinged, RefreshRound platform loop ids pings pinged := by
  have hentries : ids.length = (loop.table.entriesFrom 0).length := by
    rw [hcount, KRoutingTable.getNodeCount_eq, ← KRoutingTable.map_node_entriesFrom_zero,
      List.length_map]
  obtain ⟨pinged, heach, hsent, hpinged, -⟩ :=
    exists_refreshPings platform hentries hnodup hfresh
  have hnodes := (map_node_pingsOf hentries).trans
    (KRoutingTable.map_node_entriesFrom_zero loop.table)
  have hsame : pinged.table = loop.table := table_forEach_refreshPing heach
  have hrefreshed : Refreshed selfId history pinged
      (pingsOf ids (loop.table.entriesFrom 0)) := by
    refine ⟨hsame.trans htable, ?_, ?_, hpinged⟩
    · rw [hnodes, hsame]
    · intro ping hping
      rw [hsame]
      exact KRoutingTable.mem_entriesFrom_zero.mp (mem_pingsOf hping)
  refine ⟨_, pinged, ?_, hnodes, map_id_pingsOf hentries, hsent, ?_⟩
  · rw [sendRefreshPing_eq]
    exact heach
  · intro events hcomplete
    exact hrefreshed.keepsLive hcomplete

/-- `10.0.0.2:8100` just told of the peers `10.0.0.1:8100` and `10.0.0.3:8100`. -/
def toldOfTwo : List KRoutingTable.Event :=
  [nodeAt 1, nodeAt 3].map fun ep => .autoUpdate (KNode.ofEndpoint (hostPlatform []) ep)

def beforeRefresh : DhtLoop :=
  (start (hostPlatform []) (nodeAt 2) 0).withTable
    (KRoutingTable.afterEvents (calcNodeId (hostPlatform []) (nodeAt 2)) toldOfTwo)

theorem exists_refreshRound_toldOfTwo :
    ∃ pings pinged, RefreshRound (hostPlatform []) beforeRefresh [7, 8] pings pinged := by
  have htable : beforeRefresh.table =
      KRoutingTable.afterEvents (calcNodeId (hostPlatform []) (nodeAt 2)) toldOfTwo := rfl
  apply exists_refreshRound (hostPlatform []) htable
  · decide +kernel
  · decide
  · intro id hid
    exact ⟨List.not_mem_nil, rfl⟩

end DhtLoop

end SsP2p.Kademlia

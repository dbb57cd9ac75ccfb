import SsP2p.Kademlia.KRoutingTable
import Mathlib.Data.List.Flatten
import Mathlib.Data.Finset.Dedup
import Mathlib.Data.Finset.Card

/-!
# The routing table over whole runs

A routing table is driven by `auto_update` and by the handlers of a ping, which
call `move_back` and `delete_node` on the bucket of a node.  Every table reached
this way refines one recency list for each bucket, and every node lies in the
bucket its id determines; the size, uniqueness and lookup laws follow.
-/

namespace SsP2p.Kademlia

namespace KRoutingTable

def allNodes (table : KRoutingTable) : List KNode :=
  (table.buckets.toList.map KBucket.nodes).flatten

/-- Some bucket holds a node with the id of `kn`. -/
def Stored (table : KRoutingTable) (kn : KNode) : Prop :=
  ∃ index, kn.id ∈ (table.bucketAt index).nodes.map KNode.id

/-- The abstract table: one recency list for each bucket. -/
abbrev Abstract := Fin kBucketCount → KBucket.Recent

def Refines (table : KRoutingTable) (abstract : Abstract) : Prop :=
  ∀ index, (table.bucketAt index).Refines (abstract index)

/-- Every stored node lies in the bucket that its id determines. -/
def Placed (table : KRoutingTable) : Prop :=
  ∀ index, ∀ kn ∈ (table.bucketAt index).nodes, table.calcBranchIndex kn = index

structure Invariant (table : KRoutingTable) : Prop where
  size_le : ∀ index, (table.bucketAt index).nodes.length ≤ defaultK
  unique : (table.allNodes.map KNode.id).Nodup
  placed : table.Placed

@[simp]
theorem selfId_setBucket (table : KRoutingTable) (index : Fin kBucketCount)
    (bucket : KBucket) : (table.setBucket index bucket).selfId = table.selfId := rfl

@[simp]
theorem calcBranchIndex_setBucket (table : KRoutingTable)
    (index : Fin kBucketCount) (bucket : KBucket) (kn : KNode) :
    (table.setBucket index bucket).calcBranchIndex kn = table.calcBranchIndex kn :=
  rfl

@[simp]
theorem bucketAt_setBucket_self (table : KRoutingTable)
    (index : Fin kBucketCount) (bucket : KBucket) :
    (table.setBucket index bucket).bucketAt index = bucket := by
  simp [bucketAt, setBucket]

theorem bucketAt_setBucket_of_ne (table : KRoutingTable)
    {index other : Fin kBucketCount} (hne : other ≠ index) (bucket : KBucket) :
    (table.setBucket index bucket).bucketAt other = table.bucketAt other := by
  have hval : index.val ≠ other.val := fun heq => hne (Fin.ext heq.symm)
  simp [bucketAt, setBucket, Vector.getElem_set_ne, hval]

@[simp]
theorem setBucket_bucketAt (table : KRoutingTable) (index : Fin kBucketCount) :
    table.setBucket index (table.bucketAt index) = table := by
  simp [setBucket, bucketAt]

theorem bucketAt_empty (selfId : NodeId) (index : Fin kBucketCount) :
    (empty selfId).bucketAt index = KBucket.empty := by
  simp [bucketAt, empty]

/-- The index of a node depends on its id alone. -/
theorem calcBranchIndex_congr (table : KRoutingTable) {left right : KNode}
    (heq : left.id = right.id) :
    table.calcBranchIndex left = table.calcBranchIndex right := by
  simp only [calcBranchIndex, calcBranch, heq]

theorem toList_buckets (table : KRoutingTable) :
    table.buckets.toList = (List.finRange kBucketCount).map table.bucketAt := by
  apply List.ext_getElem
  · simp
  · intro position hleft hright
    simp [bucketAt]

theorem mem_bucketAt_iff {table : KRoutingTable} {nodes : List KNode} :
    nodes ∈ table.buckets.toList.map KBucket.nodes ↔
      ∃ index, (table.bucketAt index).nodes = nodes := by
  simp only [List.mem_map, Vector.mem_toList_iff, bucketAt]
  constructor
  · rintro ⟨bucket, hbucket, rfl⟩
    obtain ⟨index, hindex, rfl⟩ := Vector.getElem_of_mem hbucket
    exact ⟨⟨index, hindex⟩, rfl⟩
  · rintro ⟨index, rfl⟩
    exact ⟨_, Vector.getElem_mem index.isLt, rfl⟩

theorem mem_allNodes {table : KRoutingTable} {kn : KNode} :
    kn ∈ table.allNodes ↔ ∃ index, kn ∈ (table.bucketAt index).nodes := by
  rw [allNodes, List.mem_flatten]
  constructor
  · intro hmem
    obtain ⟨nodes, hnodes, hkn⟩ := hmem
    obtain ⟨index, rfl⟩ := mem_bucketAt_iff.mp hnodes
    exact ⟨index, hkn⟩
  · intro hmem
    obtain ⟨index, hkn⟩ := hmem
    exact ⟨_, mem_bucketAt_iff.mpr ⟨index, rfl⟩, hkn⟩

/-! ## Lookup and uniqueness from placement -/

/-- `is_exist` searches one bucket only, which is enough for placed nodes. -/
theorem isExist_iff_stored {table : KRoutingTable} (hplaced : table.Placed)
    (kn : KNode) : table.isExist kn = true ↔ table.Stored kn := by
  rw [isExist, KBucket.isExist_iff]
  constructor
  · intro hmem
    exact ⟨table.calcBranchIndex kn, hmem⟩
  · rintro ⟨index, hmem⟩
    obtain ⟨other, hother, heq⟩ := List.mem_map.mp hmem
    have hindex : table.calcBranchIndex kn = index := by
      rw [calcBranchIndex_congr table heq.symm]
      exact hplaced index other hother
    rwa [getBucket, hindex]

theorem nodup_allNodes {table : KRoutingTable} {abstract : Abstract}
    (hrefines : table.Refines abstract) (hplaced : table.Placed) :
    (table.allNodes.map KNode.id).Nodup := by
  rw [allNodes, List.map_flatten, List.nodup_flatten]
  constructor
  · intro ids hids
    obtain ⟨nodes, hnodes, rfl⟩ := List.mem_map.mp hids
    obtain ⟨index, rfl⟩ := mem_bucketAt_iff.mp hnodes
    rw [hrefines index]
    exact (abstract index).nodup_keys
  · rw [List.pairwise_iff_getElem]
    intro first second hfirst hsecond hlt id hinFirst hinSecond
    simp only [List.length_map, Vector.length_toList] at hfirst hsecond
    simp only [List.getElem_map, Vector.getElem_toList] at hinFirst hinSecond
    obtain ⟨left, hleft, rfl⟩ := List.mem_map.mp hinFirst
    obtain ⟨right, hright, heq⟩ := List.mem_map.mp hinSecond
    have hfirstIndex := hplaced ⟨first, hfirst⟩ left hleft
    have hsecondIndex := hplaced ⟨second, hsecond⟩ right hright
    rw [calcBranchIndex_congr table heq, hfirstIndex] at hsecondIndex
    exact hlt.ne (congrArg Fin.val hsecondIndex)

theorem invariant_of_refines {table : KRoutingTable} {abstract : Abstract}
    (hrefines : table.Refines abstract) (hplaced : table.Placed) :
    table.Invariant where
  size_le index := by
    rw [hrefines index]
    exact (abstract index).length_le
  unique := nodup_allNodes hrefines hplaced
  placed := hplaced

theorem getNodeCount_eq (table : KRoutingTable) :
    table.getNodeCount = table.allNodes.length := by
  simp only [getNodeCount, allNodes, List.length_flatten, List.map_map]
  rfl

/-! ## One operation -/

/-- A new bucket whose nodes are the old ones, or `kn` in its own bucket, keeps
every node placed. -/
theorem placed_setBucket {table : KRoutingTable} (hplaced : table.Placed)
    {index : Fin kBucketCount} {bucket : KBucket}
    (hbucket : ∀ kn ∈ bucket.nodes, table.calcBranchIndex kn = index) :
    (table.setBucket index bucket).Placed := by
  intro other kn hkn
  by_cases hother : other = index
  · subst hother
    rw [bucketAt_setBucket_self] at hkn
    exact hbucket kn hkn
  · rw [bucketAt_setBucket_of_ne table hother] at hkn
    exact hplaced other kn hkn

theorem refines_setBucket {table : KRoutingTable} {abstract : Abstract}
    (hrefines : table.Refines abstract) {index : Fin kBucketCount}
    {bucket : KBucket} {recent : KBucket.Recent} (hbucket : bucket.Refines recent) :
    (table.setBucket index bucket).Refines (Function.update abstract index recent) := by
  intro other
  by_cases hother : other = index
  · subst hother
    simpa using hbucket
  · rw [bucketAt_setBucket_of_ne table hother, Function.update_of_ne hother]
    exact hrefines other

inductive Event where
  | autoUpdate (kn : KNode)
  | moveBack (kn : KNode)
  | deleteNode (kn : KNode)

def Event.node : Event → KNode
  | .autoUpdate kn => kn
  | .moveBack kn => kn
  | .deleteNode kn => kn

def step (table : KRoutingTable) : Event → KRoutingTable
  | .autoUpdate kn => (table.autoUpdate kn).2
  | .moveBack kn => table.moveBack kn
  | .deleteNode kn => table.deleteNode kn

/-- The effect of an event on the bucket of its node. -/
def bucketStep (bucket : KBucket) : Event → KBucket
  | .autoUpdate kn => (bucket.autoUpdate kn).2
  | .moveBack kn => bucket.moveBack kn
  | .deleteNode kn => bucket.deleteNode kn

/-- The effect of an event on the recency list of that bucket. -/
def recentStep (recent : KBucket.Recent) : Event → KBucket.Recent
  | .autoUpdate kn => recent.learn kn
  | .moveBack kn => recent.touch kn.id
  | .deleteNode kn => recent.forget kn.id

/-- Every event rewrites the bucket of its node and nothing else. -/
theorem step_eq (table : KRoutingTable) (event : Event) :
    table.step event = table.setBucket (table.calcBranchIndex event.node)
      (bucketStep (table.getBucket event.node) event) := by
  cases event <;> rfl

theorem bucketStep_refines {bucket : KBucket} {recent : KBucket.Recent}
    (hrefines : bucket.Refines recent) (event : Event) :
    (bucketStep bucket event).Refines (recentStep recent event) := by
  cases event with
  | autoUpdate kn => exact KBucket.autoUpdate_refines hrefines kn
  | moveBack kn => exact KBucket.moveBack_refines hrefines kn
  | deleteNode kn => exact KBucket.deleteNode_refines hrefines kn

theorem mem_bucketStep {bucket : KBucket} {event : Event} {kn : KNode}
    (hkn : kn ∈ (bucketStep bucket event).nodes) :
    kn ∈ bucket.nodes ∨ kn = event.node := by
  cases event with
  | autoUpdate other =>
      rw [bucketStep, KBucket.nodes_autoUpdate] at hkn
      exact Recency.mem_learn hkn
  | moveBack other =>
      rw [bucketStep, KBucket.nodes_moveBack] at hkn
      exact Or.inl (Recency.mem_touch_iff.mp hkn)
  | deleteNode other =>
      rw [bucketStep, KBucket.nodes_deleteNode] at hkn
      exact Or.inl (Recency.mem_of_mem_forget hkn)

theorem refines_step {table : KRoutingTable} {abstract : Abstract}
    (hrefines : table.Refines abstract) (event : Event) :
    (table.step event).Refines
      (Function.update abstract (table.calcBranchIndex event.node)
        (recentStep (abstract (table.calcBranchIndex event.node)) event)) := by
  rw [step_eq]
  exact refines_setBucket hrefines (bucketStep_refines (hrefines _) event)

theorem placed_step {table : KRoutingTable} (hplaced : table.Placed)
    (event : Event) : (table.step event).Placed := by
  rw [step_eq]
  apply placed_setBucket hplaced
  intro kn hkn
  rcases mem_bucketStep hkn with hold | rfl
  · exact hplaced _ kn hold
  · rfl

theorem bucketAt_step_of_ne (table : KRoutingTable) (event : Event)
    {index : Fin kBucketCount} (hne : index ≠ table.calcBranchIndex event.node) :
    (table.step event).bucketAt index = table.bucketAt index := by
  rw [step_eq, bucketAt_setBucket_of_ne table hne]

/-- Only the node of an event is ever added. -/
theorem mem_step {table : KRoutingTable} {event : Event} {index : Fin kBucketCount}
    {kn : KNode} (hkn : kn ∈ ((table.step event).bucketAt index).nodes) :
    kn ∈ (table.bucketAt index).nodes ∨ kn = event.node := by
  by_cases hindex : index = table.calcBranchIndex event.node
  · subst hindex
    rw [step_eq, bucketAt_setBucket_self] at hkn
    exact mem_bucketStep hkn
  · rw [bucketAt_step_of_ne table event hindex] at hkn
    exact Or.inl hkn

/-! ## Runs -/

def afterEvents (selfId : NodeId) (events : List Event) : KRoutingTable :=
  events.foldl step (empty selfId)

theorem selfId_afterEvents (selfId : NodeId) (events : List Event) :
    (afterEvents selfId events).selfId = selfId := by
  rw [afterEvents]
  apply List.foldlRecOn (motive := fun table => table.selfId = selfId) events step rfl
  intro table hselfId event _
  rw [step_eq, selfId_setBucket, hselfId]

theorem afterEvents_refines_and_placed (selfId : NodeId) (events : List Event) :
    (∃ abstract, (afterEvents selfId events).Refines abstract) ∧
      (afterEvents selfId events).Placed := by
  unfold afterEvents
  refine List.foldlRecOn
    (motive := fun table => (∃ abstract, table.Refines abstract) ∧ table.Placed)
    events step ?_ ?_
  · constructor
    · refine ⟨fun _ => RecencyList.empty, fun index => ?_⟩
      rw [bucketAt_empty]
      exact KBucket.empty_refines
    · intro index kn hkn
      rw [bucketAt_empty] at hkn
      cases hkn
  · rintro table ⟨⟨abstract, hrefines⟩, hplaced⟩ event _
    exact ⟨⟨_, refines_step hrefines event⟩, placed_step hplaced event⟩

theorem invariant_afterEvents (selfId : NodeId) (events : List Event) :
    (afterEvents selfId events).Invariant := by
  obtain ⟨⟨abstract, hrefines⟩, hplaced⟩ := afterEvents_refines_and_placed selfId events
  exact invariant_of_refines hrefines hplaced

/-- The answer of `auto_update` tells what happened to the node, an overflow
changes nothing, and the buckets of other nodes are never touched. -/
structure UpdateReports (table : KRoutingTable) (kn : KNode) : Prop where
  added : (table.autoUpdate kn).1 = .addedBack ↔
    ¬ table.Stored kn ∧ (table.autoUpdate kn).2.Stored kn
  moved : (table.autoUpdate kn).1 = .movedBack ↔ table.Stored kn
  refused : (table.autoUpdate kn).1 = .overflow ↔
    ¬ table.Stored kn ∧ (table.getBucket kn).isFull = true
  unchanged : (table.autoUpdate kn).1 = .overflow → (table.autoUpdate kn).2 = table
  others : ∀ index, index ≠ table.calcBranchIndex kn →
    (table.autoUpdate kn).2.bucketAt index = table.bucketAt index

theorem updateReports {table : KRoutingTable} (hplaced : table.Placed)
    (kn : KNode) : table.UpdateReports kn := by
  have hstored := isExist_iff_stored hplaced kn
  have hresult : table.autoUpdate kn = (((table.getBucket kn).autoUpdate kn).1,
      table.setBucket (table.calcBranchIndex kn)
        ((table.getBucket kn).autoUpdate kn).2) := rfl
  have hothers : ∀ index, index ≠ table.calcBranchIndex kn →
      (table.autoUpdate kn).2.bucketAt index = table.bucketAt index :=
    fun index hne => bucketAt_step_of_ne table (.autoUpdate kn) hne
  rcases KBucket.autoUpdate_cases (table.getBucket kn) kn with
    ⟨hexist, hupdate⟩ | ⟨hexist, hfull, hupdate⟩ | ⟨hexist, hfull, hupdate⟩
  · have hin : table.Stored kn := hstored.mp hexist
    have hstate : (table.autoUpdate kn).1 = .movedBack := by rw [hresult, hupdate]
    refine ⟨?_, ?_, ?_, ?_, hothers⟩ <;> simp [hstate, hin]
  · have hout : ¬ table.Stored kn := by simp [← hstored, isExist, hexist]
    have hstate : (table.autoUpdate kn).1 = .overflow := by rw [hresult, hupdate]
    have hsame : (table.autoUpdate kn).2 = table := by
      rw [hresult, hupdate]
      exact setBucket_bucketAt table _
    refine ⟨?_, ?_, ?_, ?_, hothers⟩ <;> simp [hstate, hsame, hout, hfull]
  · have hout : ¬ table.Stored kn := by simp [← hstored, isExist, hexist]
    have hstate : (table.autoUpdate kn).1 = .addedBack := by rw [hresult, hupdate]
    have hnow : (table.autoUpdate kn).2.Stored kn := by
      refine ⟨table.calcBranchIndex kn, ?_⟩
      simp [hresult, hupdate]
    refine ⟨?_, ?_, ?_, ?_, hothers⟩ <;> simp [hstate, hout, hnow, hfull]

/-- The routing table keeps its laws over every run: sizes, uniqueness and
placement hold, `is_exist` and `get_node_count` speak about the stored ids, and
`auto_update` reports what it does. -/
theorem afterEvents_invariant (selfId : NodeId) (events : List Event) :
    (afterEvents selfId events).Invariant ∧
      (∀ kn, (afterEvents selfId events).isExist kn = true ↔
        (afterEvents selfId events).Stored kn) ∧
      (afterEvents selfId events).getNodeCount =
        ((afterEvents selfId events).allNodes.map KNode.id).toFinset.card ∧
      ∀ kn, (afterEvents selfId events).UpdateReports kn := by
  have hinvariant := invariant_afterEvents selfId events
  refine ⟨hinvariant, isExist_iff_stored hinvariant.placed, ?_,
    updateReports hinvariant.placed⟩
  rw [List.toFinset_card_of_nodup hinvariant.unique, List.length_map,
    getNodeCount_eq]

end KRoutingTable

end SsP2p.Kademlia

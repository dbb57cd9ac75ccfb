import SsP2p.Kademlia.TableInvariant
import SsP2p.Kademlia.XorMetric
import Mathlib.Data.List.InsertIdx

/-!
# Swapping nodes

`swap_node` puts one node in the place of another.  The bucket makes sure that the new node
is not there yet, but the table takes the bucket of the old node without asking for that of
the new one.
-/

namespace SsP2p.Kademlia

namespace KBucket

/-- `swap_node`: erase, and insert at the place that became free. -/
def swapNode (bucket : KBucket) (nodeSrc nodeDest : KNode) : KBucket :=
  match bucket.nodes.findIdx? fun other => other.same nodeSrc with
  | none => bucket
  | some position =>
      if bucket.nodes.any fun other => other.same nodeDest then bucket
      else ⟨(bucket.nodes.eraseIdx position).insertIdx position nodeDest⟩

theorem nodes_swapNode (bucket : KBucket) (nodeSrc nodeDest : KNode) :
    (bucket.swapNode nodeSrc nodeDest).nodes =
      Recency.replace KNode.id nodeSrc.id nodeDest bucket.nodes := by
  have hsame : (fun other : KNode => other.same nodeSrc) =
      fun other => decide (other.id = nodeSrc.id) := by
    funext other
    rw [Bool.eq_iff_iff, KNode.same_iff, decide_eq_true_eq]
  have hknown : (bucket.nodes.any fun other => other.same nodeDest) = true ↔
      nodeDest.id ∈ bucket.nodes.map KNode.id := by
    simp only [List.any_eq_true, KNode.same_iff, List.mem_map]
  rw [swapNode, Recency.replace, hsame]
  cases hposition : bucket.nodes.findIdx? fun other => decide (other.id = nodeSrc.id) with
  | none => rfl
  | some position =>
      have hinside := (List.findIdx?_eq_some_iff_getElem.mp hposition).1
      simp only [hknown]
      split_ifs
      · rfl
      · exact List.insertIdx_eraseIdx_self hinside.ne nodeDest

/-- Where the old node is not stored or the new one is, nothing changes. -/
theorem swapNode_of_refused {bucket : KBucket} {nodeSrc nodeDest : KNode}
    (hrefused : nodeSrc.id ∉ bucket.nodes.map KNode.id ∨
      nodeDest.id ∈ bucket.nodes.map KNode.id) : bucket.swapNode nodeSrc nodeDest = bucket := by
  have hnodes : (bucket.swapNode nodeSrc nodeDest).nodes = bucket.nodes := by
    rw [nodes_swapNode, Recency.replace]
    split
    · rfl
    · rename_i position hposition
      obtain ⟨hinside, hid, -⟩ := List.findIdx?_eq_some_iff_getElem.mp hposition
      apply if_pos
      apply hrefused.resolve_left
      rw [not_not]
      exact of_decide_eq_true hid ▸ List.mem_map_of_mem (List.getElem_mem hinside)
  cases bucket
  exact congrArg KBucket.mk hnodes

/-- Otherwise the new node stands where the old one was. -/
theorem exists_swapNode {bucket : KBucket} {nodeSrc nodeDest : KNode}
    (hstored : nodeSrc.id ∈ bucket.nodes.map KNode.id)
    (hnew : nodeDest.id ∉ bucket.nodes.map KNode.id) :
    ∃ position kn, bucket.nodes[position]? = some kn ∧ kn.id = nodeSrc.id ∧
      bucket.swapNode nodeSrc nodeDest = ⟨bucket.nodes.set position nodeDest⟩ := by
  have hnodes := nodes_swapNode bucket nodeSrc nodeDest
  rw [Recency.replace] at hnodes
  cases hposition : bucket.nodes.findIdx? fun other => decide (other.id = nodeSrc.id) with
  | none =>
      obtain ⟨kn, hkn, hid⟩ := List.mem_map.mp hstored
      have hother := List.findIdx?_eq_none_iff.mp hposition kn hkn
      exact absurd hid (of_decide_eq_false hother)
  | some position =>
      obtain ⟨hinside, hid, -⟩ := List.findIdx?_eq_some_iff_getElem.mp hposition
      simp only [hposition, if_neg hnew] at hnodes
      exact ⟨position, bucket.nodes[position], List.getElem?_eq_getElem hinside,
        of_decide_eq_true hid, congrArg KBucket.mk hnodes⟩

theorem swapNode_refines {bucket : KBucket} {recent : Recent} (hrefines : bucket.Refines recent)
    (nodeSrc nodeDest : KNode) :
    (bucket.swapNode nodeSrc nodeDest).Refines (recent.replace nodeSrc.id nodeDest) := by
  rw [Refines, nodes_swapNode, hrefines]
  rfl

end KBucket

namespace KRoutingTable

def swapNode (table : KRoutingTable) (nodeSrc nodeDest : KNode) : KRoutingTable :=
  table.setBucket (table.calcBranchIndex nodeSrc)
    ((table.getBucket nodeSrc).swapNode nodeSrc nodeDest)

/-- The new node may take the place of the old one: it belongs to the same bucket, and is
stored nowhere. -/
def Admits (table : KRoutingTable) (nodeSrc nodeDest : KNode) : Prop :=
  table.calcBranchIndex nodeDest = table.calcBranchIndex nodeSrc ∧ ¬ table.Stored nodeDest

/-- What a swap should do: the new node stands where the old one was, or nothing happens,
and the laws of the table go on holding. -/
structure SwapLaw (table : KRoutingTable) (nodeSrc nodeDest : KNode) : Prop where
  invariant : (table.swapNode nodeSrc nodeDest).Invariant
  replaced : table.Stored nodeSrc → table.Admits nodeSrc nodeDest →
    ∃ index position kn, (table.bucketAt index).nodes[position]? = some kn ∧
      kn.id = nodeSrc.id ∧ table.swapNode nodeSrc nodeDest =
        table.setBucket index ⟨(table.bucketAt index).nodes.set position nodeDest⟩
  unchanged : ¬ table.Stored nodeSrc ∨ ¬ table.Admits nodeSrc nodeDest →
    table.swapNode nodeSrc nodeDest = table

section Swap

variable {table : KRoutingTable} (hinvariant : table.Invariant)

include hinvariant

theorem exists_refines : ∃ abstract, table.Refines abstract := by
  have hnodup : ∀ index, ((table.bucketAt index).nodes.map KNode.id).Nodup := by
    intro index
    have hsublist : (table.bucketAt index).nodes.Sublist table.allNodes :=
      List.sublist_flatten_of_mem (mem_bucketAt_iff.mpr ⟨index, rfl⟩)
    exact (hsublist.map KNode.id).nodup hinvariant.unique
  exact ⟨fun index => ⟨(table.bucketAt index).nodes, hinvariant.size_le index, hnodup index⟩,
    fun _ => rfl⟩

/-- A node is stored in the bucket that it belongs to or not at all. -/
theorem stored_iff (kn : KNode) :
    table.Stored kn ↔ kn.id ∈ (table.getBucket kn).nodes.map KNode.id := by
  rw [← isExist_iff_stored hinvariant.placed, isExist, KBucket.isExist_iff]

theorem invariant_swapNode {nodeSrc nodeDest : KNode}
    (hindex : table.calcBranchIndex nodeDest = table.calcBranchIndex nodeSrc) :
    (table.swapNode nodeSrc nodeDest).Invariant := by
  obtain ⟨abstract, hrefines⟩ := exists_refines hinvariant
  apply invariant_of_refines
  · exact refines_setBucket hrefines
      (KBucket.swapNode_refines (hrefines (table.calcBranchIndex nodeSrc)) nodeSrc nodeDest)
  · apply placed_setBucket hinvariant.placed
    intro kn hkn
    rw [KBucket.nodes_swapNode, Recency.replace] at hkn
    split at hkn
    · exact hinvariant.placed _ kn hkn
    · split_ifs at hkn
      · exact hinvariant.placed _ kn hkn
      · cases List.mem_or_eq_of_mem_set hkn with
        | inl hold => exact hinvariant.placed _ kn hold
        | inr hnew => rw [hnew, hindex]

/-- A swap that puts a node into another bucket breaks the placement. -/
theorem not_placed_swapNode {nodeSrc nodeDest : KNode} (hstored : table.Stored nodeSrc)
    (hindex : table.calcBranchIndex nodeDest ≠ table.calcBranchIndex nodeSrc) :
    ¬ (table.swapNode nodeSrc nodeDest).Placed := by
  intro hplaced
  have hnew : nodeDest.id ∉ (table.getBucket nodeSrc).nodes.map KNode.id := by
    intro hmem
    obtain ⟨kn, hkn, hid⟩ := List.mem_map.mp hmem
    rw [← calcBranchIndex_congr table hid] at hindex
    exact hindex (hinvariant.placed _ kn hkn)
  obtain ⟨position, kn, hkn, -, hswap⟩ :=
    KBucket.exists_swapNode ((stored_iff hinvariant nodeSrc).mp hstored) hnew
  have hinside := (List.getElem?_eq_some_iff.mp hkn).1
  apply hindex
  apply hplaced (table.calcBranchIndex nodeSrc) nodeDest
  rw [swapNode, bucketAt_setBucket_self, hswap]
  exact List.mem_set hinside nodeDest

/-- A swap does what it should exactly when the old node is not stored or the new one belongs
to the same bucket. -/
theorem swapLaw_iff (nodeSrc nodeDest : KNode) :
    table.SwapLaw nodeSrc nodeDest ↔
      (table.Stored nodeSrc →
        table.calcBranchIndex nodeDest = table.calcBranchIndex nodeSrc) := by
  constructor
  · intro hlaw hstored
    by_contra hindex
    exact not_placed_swapNode hinvariant hstored hindex hlaw.invariant.placed
  · intro hsame
    have hrefused : ¬ table.Stored nodeSrc ∨ ¬ table.Admits nodeSrc nodeDest →
        table.swapNode nodeSrc nodeDest = table := by
      intro hnot
      have hbucket : (table.getBucket nodeSrc).swapNode nodeSrc nodeDest =
          table.getBucket nodeSrc := by
        apply KBucket.swapNode_of_refused
        rw [← stored_iff hinvariant]
        by_cases hstored : table.Stored nodeSrc
        · have hindex := hsame hstored
          right
          by_contra hnew
          apply hnot.elim (absurd hstored)
          intro hadmits
          apply hadmits
          refine ⟨hindex, ?_⟩
          rwa [stored_iff hinvariant, getBucket, hindex]
        · exact Or.inl hstored
      rw [swapNode, hbucket]
      exact setBucket_bucketAt table _
    refine ⟨?_, ?_, hrefused⟩
    · by_cases hstored : table.Stored nodeSrc
      · exact invariant_swapNode hinvariant (hsame hstored)
      · rw [hrefused (Or.inl hstored)]
        exact hinvariant
    · intro hstored hadmits
      have hnew : nodeDest.id ∉ (table.getBucket nodeSrc).nodes.map KNode.id := by
        rw [getBucket, ← hadmits.1]
        exact mt (stored_iff hinvariant nodeDest).mpr hadmits.2
      obtain ⟨position, kn, hkn, hid, hswap⟩ :=
        KBucket.exists_swapNode ((stored_iff hinvariant nodeSrc).mp hstored) hnew
      refine ⟨table.calcBranchIndex nodeSrc, position, kn, hkn, hid, ?_⟩
      rw [swapNode, hswap]
      rfl

end Swap

/-- `10.0.0.4` takes the place of `10.0.0.2`, which has the same branch from `10.0.0.1`. -/
theorem swapLaw_sameBucket :
    (afterEvents (hostNode 1).id [.autoUpdate (hostNode 2)]).SwapLaw (hostNode 2)
      (hostNode 4) := by
  apply (swapLaw_iff (invariant_afterEvents (hostNode 1).id [.autoUpdate (hostNode 2)])
    (hostNode 2) (hostNode 4)).mpr
  intro _
  decide +kernel

/-- `10.0.0.3` takes the place of `10.0.0.2`, but has another branch: it is not found any
more, and stored a second time. -/
theorem not_swapLaw_otherBucket :
    let table := afterEvents (hostNode 1).id [.autoUpdate (hostNode 2)]
    let swapped := table.swapNode (hostNode 2) (hostNode 3)
    table.Invariant ∧ ¬ table.SwapLaw (hostNode 2) (hostNode 3) ∧
      swapped.isExist (hostNode 3) = false ∧
      (swapped.autoUpdate (hostNode 3)).2.allNodes = [hostNode 3, hostNode 3] := by
  have hinvariant := invariant_afterEvents (hostNode 1).id [.autoUpdate (hostNode 2)]
  refine ⟨hinvariant, fun hlaw => ?_, ?_, ?_⟩
  · apply not_placed_swapNode hinvariant _ _ hlaw.invariant.placed
    · exact (isExist_iff_stored hinvariant.placed (hostNode 2)).mp (by decide +kernel)
    · decide +kernel
  · decide +kernel
  · decide +kernel

end KRoutingTable

end SsP2p.Kademlia

import SsP2p.Kademlia.CollectNode

/-!
# Nodes that are collected twice

`collect_node` visits the bucket of every branch once, except from the own id, whose branch
has the same bucket as branch 1.  From there the first bucket is visited twice, and its
nodes are returned twice as soon as the count goes beyond them.
-/

namespace SsP2p.Kademlia

namespace KRoutingTable

/-- The first bucket has nothing to give, or enough for the whole count. -/
def FirstBucketSuffices (table : KRoutingTable) (ignoreNodes : List KNode) (maxCount : ℕ) :
    Prop :=
  table.offeredAt ignoreNodes 0 = [] ∨ maxCount ≤ (table.offeredAt ignoreNodes 0).length

/-- Of a list that begins with the same nodes twice, the first ones are distinct when they
do not reach the repetition. -/
theorem nodup_take_repeated_iff {nodes rest : List KNode} {count : ℕ}
    (hnodup : ((nodes ++ rest).map KNode.id).Nodup) :
    (((nodes ++ (nodes ++ rest)).take count).map KNode.id).Nodup ↔
      nodes = [] ∨ count ≤ nodes.length := by
  constructor
  · intro htaken
    by_contra hbeyond
    rw [not_or, not_le] at hbeyond
    obtain ⟨kn, tail, rfl⟩ := List.exists_cons_of_ne_nil hbeyond.1
    have hmore : 0 < count - (kn :: tail).length := Nat.sub_pos_of_lt hbeyond.2
    obtain ⟨more, hcount⟩ := Nat.exists_eq_add_of_lt hmore
    rw [List.take_append, List.take_of_length_le hbeyond.2.le, hcount, Nat.zero_add,
      List.map_append, List.cons_append, List.take_succ_cons, List.map_cons, List.map_cons,
      List.nodup_append] at htaken
    exact htaken.2.2 kn.id List.mem_cons_self kn.id List.mem_cons_self rfl
  · intro hwithin
    apply List.Nodup.sublist (List.Sublist.map KNode.id _) hnodup
    cases hwithin with
    | inl hempty =>
        rw [hempty, List.nil_append]
        exact List.take_sublist _ _
    | inr hcount =>
        rw [List.take_append_of_le_length hcount]
        exact (List.take_sublist _ _).trans (List.sublist_append_left _ _)

section Distinct

variable {table : KRoutingTable} {ignoreNodes : List KNode}

theorem nodup_allOffered (hnodup : (table.allNodes.map KNode.id).Nodup) :
    ((table.allOffered ignoreNodes).map KNode.id).Nodup :=
  hnodup.sublist (List.filter_sublist.map KNode.id)

/-- From a branch of the table no node is visited twice. -/
theorem nodup_items_rounds (hnodup : (table.allNodes.map KNode.id).Nodup) {rootBranch : ℕ}
    (hpositive : 1 ≤ rootBranch) (hroot : rootBranch ≤ 160) :
    ((QuotaScan.items (table.rounds ignoreNodes rootBranch)).map KNode.id).Nodup := by
  have hperm : (QuotaScan.items (table.rounds ignoreNodes rootBranch)).Perm
      (table.allOffered ignoreNodes) := by
    rw [items_rounds]
    exact ((visitOrder_perm hpositive hroot).flatMap_right _).trans
      (offeredAt_perm table ignoreNodes)
  exact (hperm.map KNode.id).nodup_iff.mpr (nodup_allOffered hnodup)

/-- From the own id the first bucket comes twice, and then the others. -/
theorem items_rounds_zero :
    QuotaScan.items (table.rounds ignoreNodes 0) =
      table.offeredAt ignoreNodes 0 ++ (table.offeredAt ignoreNodes 0 ++
        (List.range' 2 159).flatMap (table.offeredAt ignoreNodes)) := by
  rw [items_rounds, visitOrder_zero, List.range'_succ, List.flatMap_cons, List.flatMap_cons]
  rfl

theorem nodup_offeredAt_zero (hnodup : (table.allNodes.map KNode.id).Nodup) :
    ((table.offeredAt ignoreNodes 0 ++
      (List.range' 2 159).flatMap (table.offeredAt ignoreNodes)).map KNode.id).Nodup := by
  have hperm := offeredAt_perm table ignoreNodes
  rw [List.range'_succ, List.flatMap_cons] at hperm
  exact (hperm.map KNode.id).nodup_iff.mpr (nodup_allOffered hnodup)

/-- From the own id only lower buckets are left, so that nothing is collected beyond the
count. -/
theorem scan_rounds_zero (maxCount : ℕ) :
    QuotaScan.scan maxCount [] (table.rounds ignoreNodes 0) =
      (QuotaScan.items (table.rounds ignoreNodes 0)).take maxCount := by
  have hnone : QuotaScan.surplus maxCount 0 (table.rounds ignoreNodes 0) = [] := by
    rw [surplus_rounds_eq_nil_iff]
    intro count _ hlt hfirst
    rw [ring, if_neg (Nat.not_lt_zero count), List.length_nil, Nat.add_zero] at hfirst
    exact absurd (hlt.trans_le hfirst) (lt_irrefl _)
  rw [QuotaScan.scan_eq (Nat.zero_le _), List.nil_append, List.length_nil, hnone,
    List.append_nil]

/-- In a table without repetitions only the own id as root leads to one. -/
theorem nodup_map_collectNode_iff (hnodup : (table.allNodes.map KNode.id).Nodup)
    (rootNode : KNode) (maxCount : ℕ) :
    ((table.collectNode rootNode maxCount ignoreNodes).map KNode.id).Nodup ↔
      (rootNode.id = table.selfId → table.FirstBucketSuffices ignoreNodes maxCount) := by
  cases Nat.eq_zero_or_pos maxCount with
  | inl hzero =>
      subst hzero
      rw [collectNode_zero]
      apply iff_of_true
      · cases table.offeredAt ignoreNodes (table.calcBranch rootNode) with
        | nil => exact List.nodup_nil
        | cons kn rest => exact List.nodup_singleton kn.id
      · exact fun _ => Or.inr (Nat.zero_le _)
  | inr hpositive =>
      rw [collectNode_eq_scan rootNode hpositive, ← calcBranch_eq_zero_iff]
      cases Nat.eq_zero_or_pos (table.calcBranch rootNode) with
      | inl hown =>
          rw [hown, forall_prop_of_true rfl, scan_rounds_zero, items_rounds_zero]
          exact nodup_take_repeated_iff (nodup_offeredAt_zero hnodup)
      | inr hother =>
          apply iff_of_true
          · have hnil : ([] : List KNode).length ≤ maxCount := Nat.zero_le _
            have hsublist := QuotaScan.scan_sublist hnil
              (table.rounds ignoreNodes (table.calcBranch rootNode))
            exact (nodup_items_rounds hnodup hother (table.calcBranch_le rootNode)).sublist
              (hsublist.map KNode.id)
          · exact fun hzero => absurd hzero hother.ne'

end Distinct

/-- No node is returned twice, except from the own id as root when the count goes beyond
the nodes of the first bucket. -/
theorem nodup_collectNode_iff (selfId : NodeId) (events : List Event) (rootNode : KNode)
    (maxCount : ℕ) (ignoreNodes : List KNode) :
    (((afterEvents selfId events).collectNode rootNode maxCount ignoreNodes).map
        KNode.id).Nodup ↔
      (rootNode.id = selfId →
        (afterEvents selfId events).FirstBucketSuffices ignoreNodes maxCount) := by
  rw [nodup_map_collectNode_iff (invariant_afterEvents selfId events).unique,
    selfId_afterEvents]

/-- The table of `10.0.0.1` that holds this node alone: asked for two nodes near the own id,
it returns it twice. -/
theorem not_nodup_collectNode_own :
    (afterEvents (hostNode 1).id [.autoUpdate (hostNode 1)]).collectNode (hostNode 1) 2 [] =
        [hostNode 1, hostNode 1] ∧
      ¬ (((afterEvents (hostNode 1).id [.autoUpdate (hostNode 1)]).collectNode
        (hostNode 1) 2 []).map KNode.id).Nodup := by
  have htwice : (afterEvents (hostNode 1).id [.autoUpdate (hostNode 1)]).collectNode
      (hostNode 1) 2 [] = [hostNode 1, hostNode 1] := by
    decide +kernel
  rw [htwice]
  refine ⟨rfl, fun hnodup => ?_⟩
  exact (List.nodup_cons.mp hnodup).1 List.mem_cons_self

end KRoutingTable

end SsP2p.Kademlia

import SsP2p.Kademlia.XorMetric
import SsP2p.Lib.Agreement

/-!
# Branches as subtrees

`calc_node_xor_distance` counts the bits that two ids share from the front, in the order of
its loop.  Ids that share more bits form the subtrees of a binary tree, so that the nodes of
one branch are closer to each other than to the own id.
-/

namespace SsP2p.Kademlia

open Agreement

theorem byteIndex_lt (position : Fin (kNodeIdLength * 8)) :
    position.val / 8 < kNodeIdLength := by
  have hlt := position.isLt
  omega

/-- The bits of an id in the order of the loop. -/
def idBits (nid : NodeId) (position : Fin (kNodeIdLength * 8)) : Bool :=
  (getElem nid (position.val / 8) (byteIndex_lt position)).toNat.testBit (position.val % 8)

/-- The loop stops at the first bit where the ids differ. -/
theorem calcNodeXorDistance_eq_agreement (nid₁ nid₂ : NodeId) :
    calcNodeXorDistance nid₁ nid₂ = agreement (idBits nid₁) (idBits nid₂) := by
  rw [calcNodeXorDistance, agreement]
  congr 2
  funext position
  rw [shiftRight_and_one_ne _ (Nat.mod_lt _ (Nat.zero_lt_succ 7)), Vector.getElem_zipWith,
    UInt8.toNat_xor, Nat.testBit_xor, idBits, idBits]
  cases nid₁[position.val / 8].toNat.testBit (position.val % 8) <;>
    cases nid₂[position.val / 8].toNat.testBit (position.val % 8) <;> rfl

theorem idBits_injective : Function.Injective idBits := by
  intro left right heq
  rw [← calcNodeXorDistance_eq_iff, calcNodeXorDistance_eq_agreement, heq,
    agreement_eq_length_iff]

theorem isUltrametric_calcNodeXorDistance :
    IsUltrametric calcNodeXorDistance (kNodeIdLength * 8) := by
  have hagreement : calcNodeXorDistance =
      fun left right => agreement (idBits left) (idBits right) := by
    funext left right
    exact calcNodeXorDistance_eq_agreement left right
  rw [hagreement]
  exact isUltrametric_agreement idBits_injective

namespace KRoutingTable

/-- The nodes of a branch share more bits with each other than with the own id, and with
the nodes of lower branches as many as the own id does. -/
structure BranchesAreSubtrees (table : KRoutingTable) : Prop where
  same : ∀ left right : KNode, left.id ≠ right.id →
    table.calcBranch left = table.calcBranch right → 1 ≤ table.calcBranch left →
    calcNodeXorDistance table.selfId left.id < calcNodeXorDistance left.id right.id
  lower : ∀ left right : KNode, table.calcBranch left < table.calcBranch right →
    calcNodeXorDistance left.id right.id = calcNodeXorDistance table.selfId right.id

theorem branchesAreSubtrees (table : KRoutingTable) : table.BranchesAreSubtrees where
  same left right _ hbranch hpositive := by
    have hleft := calcNodeXorDistance_le table.selfId left.id
    have hright := calcNodeXorDistance_le table.selfId right.id
    have hlt : calcNodeXorDistance table.selfId left.id < kNodeIdLength * 8 := by
      rw [calcBranch] at hpositive
      omega
    have heq : calcNodeXorDistance table.selfId left.id =
        calcNodeXorDistance table.selfId right.id := by
      rw [calcBranch, calcBranch] at hbranch
      omega
    simp only [calcNodeXorDistance_eq_agreement] at hlt heq ⊢
    exact lt_agreement_of_eq hlt heq
  lower left right hlt := by
    have hcloser := (calcBranch_lt_iff table left right).mp hlt
    have hsymm := isUltrametric_calcNodeXorDistance.symm left.id table.selfId
    rw [isUltrametric_calcNodeXorDistance.eq_min left.id table.selfId right.id
      (hsymm ▸ hcloser.ne'), hsymm, min_eq_right hcloser.le]

end KRoutingTable

/-- The number of shared bits is an ultrametric, and the branches of every table are the
subtrees next to the own id. -/
theorem sharedBits_laws :
    IsUltrametric calcNodeXorDistance 160 ∧
      ∀ table : KRoutingTable, table.BranchesAreSubtrees :=
  ⟨isUltrametric_calcNodeXorDistance, KRoutingTable.branchesAreSubtrees⟩

end SsP2p.Kademlia

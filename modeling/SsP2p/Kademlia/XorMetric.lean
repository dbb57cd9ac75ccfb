import SsP2p.Core.HostPlatform
import SsP2p.Kademlia.KRoutingTable
import SsP2p.Lib.BitOrder

/-!
# Branches and the XOR metric

An id is printed, and copied from its digest, with the highest bit of its first byte in
front.  `calc_node_xor_distance` counts the leading zeros of two ids in another order: the
bytes from the front, but the bits of a byte from the lowest.
-/

namespace SsP2p.Kademlia

open BitOrder

def xorBytes (nid₁ nid₂ : NodeId) : List UInt8 :=
  (Vector.zipWith (· ^^^ ·) nid₁ nid₂).toList

/-- The order of the loop: within a byte from the lowest bit. -/
def lowestFirst (position : ℕ) : ℕ := position

/-- The order of the printed id: within a byte from the highest bit. -/
def highestFirst (position : ℕ) : ℕ := 7 - position

/-- The leading zero bits of the combined ids as they are printed. -/
def leadingZeroBits (nid₁ nid₂ : NodeId) : ℕ :=
  zeros (readBits highestFirst (xorBytes nid₁ nid₂))

def NodeId.toNat (nid : NodeId) : ℕ :=
  value nid.toList

def xorDistance (nid₁ nid₂ : NodeId) : ℕ :=
  nid₁.toNat ^^^ nid₂.toNat

theorem length_xorBytes (nid₁ nid₂ : NodeId) : (xorBytes nid₁ nid₂).length = kNodeIdLength :=
  Vector.length_toList

theorem value_xorBytes (nid₁ nid₂ : NodeId) :
    value (xorBytes nid₁ nid₂) = xorDistance nid₁ nid₂ := by
  rw [xorBytes, Vector.toList_zipWith, value_zipWith_xor (by simp)]
  rfl

/-- Shifting a byte and masking it reads one bit. -/
theorem shiftRight_and_one_ne (byte : UInt8) {position : ℕ} (hposition : position < 8) :
    ((byte >>> UInt8.ofNat position) &&& 1 != 1) = !byte.toNat.testBit position := by
  have hbit : ((byte >>> UInt8.ofNat position) &&& 1).toNat =
      byte.toNat >>> position % 2 := by
    rw [UInt8.toNat_and, UInt8.toNat_shiftRight, UInt8.toNat_ofNat',
      Nat.mod_eq_of_lt (show position < 2 ^ 8 by omega), Nat.mod_eq_of_lt hposition]
    exact Nat.and_one_is_mod _
  rw [Bool.eq_iff_iff, bne_iff_ne, ne_eq, ← UInt8.toNat_inj, hbit, Bool.not_eq_true',
    Nat.testBit_eq_decide_div_mod_eq, decide_eq_false_iff_not, Nat.shiftRight_eq_div_pow]
  rfl

/-- The loop reads the bits of every byte from the lowest. -/
theorem calcNodeXorDistance_eq (nid₁ nid₂ : NodeId) :
    calcNodeXorDistance nid₁ nid₂ = zeros (readBits lowestFirst (xorBytes nid₁ nid₂)) := by
  have hpositions : List.range (8 * (xorBytes nid₁ nid₂).length) =
      (List.finRange (kNodeIdLength * 8)).map Fin.val := by
    rw [length_xorBytes]
    exact List.map_coe_finRange_eq_range.symm
  rw [calcNodeXorDistance, zeros, readBits, hpositions, List.map_map, List.takeWhile_map,
    List.length_map]
  congr 2
  funext i
  have hbyte : i.val / 8 < kNodeIdLength := Nat.div_lt_of_lt_mul (Nat.mul_comm _ 8 ▸ i.isLt)
  rw [shiftRight_and_one_ne _ (Nat.mod_lt _ (Nat.zero_lt_succ 7)), Function.comp_apply,
    Function.comp_apply, List.getD_eq_getElem _ _ (by rwa [length_xorBytes])]
  rfl

theorem lowestFirst_surjective :
    ∀ bit < 8, ∃ position < 8, lowestFirst position = bit :=
  fun bit hbit => ⟨bit, hbit, rfl⟩

theorem highestFirst_surjective :
    ∀ bit < 8, ∃ position < 8, highestFirst position = bit := by
  intro bit hbit
  refine ⟨7 - bit, by omega, ?_⟩
  rw [highestFirst]
  omega

/-! ## The distance of two ids -/

/-- Where two ids first differ, the lowest set bit of the byte is as far from its low end
as the highest one is from its high end. -/
def FirstDifferenceEven (nid₁ nid₂ : NodeId) : Prop :=
  ∀ position byte, firstNonzero (xorBytes nid₁ nid₂) = some (position, byte) →
    zeros (readByte lowestFirst byte) = zeros (readByte highestFirst byte)

theorem calcNodeXorDistance_of_none {nid₁ nid₂ : NodeId}
    (hnone : firstNonzero (xorBytes nid₁ nid₂) = none) :
    calcNodeXorDistance nid₁ nid₂ = kNodeIdLength * 8 := by
  rw [calcNodeXorDistance_eq, zeros_readBits_of_none lowestFirst_surjective hnone,
    length_xorBytes, Nat.mul_comm]

theorem calcNodeXorDistance_of_some {nid₁ nid₂ : NodeId} {position : ℕ} {byte : UInt8}
    (hfirst : firstNonzero (xorBytes nid₁ nid₂) = some (position, byte)) :
    calcNodeXorDistance nid₁ nid₂ = 8 * position + zeros (readByte lowestFirst byte) := by
  rw [calcNodeXorDistance_eq, zeros_readBits_of_some lowestFirst_surjective hfirst]

theorem calcNodeXorDistance_eq_leadingZeroBits_iff (nid₁ nid₂ : NodeId) :
    calcNodeXorDistance nid₁ nid₂ = leadingZeroBits nid₁ nid₂ ↔
      FirstDifferenceEven nid₁ nid₂ := by
  rw [FirstDifferenceEven, leadingZeroBits]
  cases hfirst : firstNonzero (xorBytes nid₁ nid₂) with
  | none =>
      rw [calcNodeXorDistance_of_none hfirst,
        zeros_readBits_of_none highestFirst_surjective hfirst, length_xorBytes]
      constructor
      · intro _ position byte hsome
        cases hsome
      · intro _
        exact Nat.mul_comm _ _
  | some found =>
      rw [calcNodeXorDistance_of_some hfirst,
        zeros_readBits_of_some highestFirst_surjective hfirst, Nat.add_left_cancel_iff]
      constructor
      · intro heven position byte hsome
        obtain rfl := Option.some.inj hsome
        exact heven
      · intro heven
        exact heven found.1 found.2 rfl

/-- Equal ids are as far apart as the loop counts. -/
theorem calcNodeXorDistance_eq_iff {nid₁ nid₂ : NodeId} :
    calcNodeXorDistance nid₁ nid₂ = kNodeIdLength * 8 ↔ nid₁ = nid₂ := by
  constructor
  · intro heq
    cases hfirst : firstNonzero (xorBytes nid₁ nid₂) with
    | none =>
        ext position hposition
        have hread : nid₁[position] ^^^ nid₂[position] ∈ xorBytes nid₁ nid₂ := by
          rw [xorBytes, Vector.mem_toList_iff, Vector.mem_iff_getElem]
          exact ⟨position, hposition, Vector.getElem_zipWith hposition⟩
        rw [UInt8.xor_eq_zero_iff.mp (firstNonzero_eq_none_iff.mp hfirst _ hread)]
    | some found =>
        obtain ⟨hne, hinside, -⟩ := value_bounds hfirst
        have hbyte := zeros_readByte_lt lowestFirst_surjective hne
        rw [length_xorBytes] at hinside
        rw [calcNodeXorDistance_of_some hfirst] at heq
        omega
  · intro heq
    apply calcNodeXorDistance_of_none
    rw [firstNonzero_eq_none_iff]
    intro byte hbyte
    rw [heq, xorBytes, Vector.mem_toList_iff] at hbyte
    obtain ⟨position, hposition, hread⟩ := Vector.getElem_of_mem hbyte
    rw [Vector.getElem_zipWith, UInt8.xor_self] at hread
    exact hread.symm

/-! ## The order of the branches -/

/-- Where two ids first differ from the own one in the same byte, more zeros at its low end
go with a smaller byte. -/
def FirstDifferenceOrdered (selfId nid₁ nid₂ : NodeId) : Prop :=
  ∀ position byte₁ byte₂,
    firstNonzero (xorBytes selfId nid₁) = some (position, byte₁) →
    firstNonzero (xorBytes selfId nid₂) = some (position, byte₂) →
    zeros (readByte lowestFirst byte₂) < zeros (readByte lowestFirst byte₁) → byte₁ < byte₂

theorem distance_lt_iff_ordered (selfId nid₁ nid₂ : NodeId) :
    (calcNodeXorDistance selfId nid₂ < calcNodeXorDistance selfId nid₁ →
        xorDistance selfId nid₁ < xorDistance selfId nid₂) ↔
      FirstDifferenceOrdered selfId nid₁ nid₂ := by
  have hlength : (xorBytes selfId nid₁).length = (xorBytes selfId nid₂).length := by
    rw [length_xorBytes, length_xorBytes]
  rw [← value_xorBytes, ← value_xorBytes]
  constructor
  · intro hordered position byte₁ byte₂ hfirst hsecond hzeros
    have hne : byte₁ ≠ byte₂ := fun heq => lt_irrefl _ (heq ▸ hzeros)
    rw [calcNodeXorDistance_of_some hfirst, calcNodeXorDistance_of_some hsecond] at hordered
    exact (value_lt_iff_of_position_eq hlength hfirst hsecond rfl hne).mp
      (hordered (Nat.add_lt_add_left hzeros _))
  · intro hordered hlt
    cases hsecond : firstNonzero (xorBytes selfId nid₂) with
    | none =>
        rw [calcNodeXorDistance_of_none hsecond] at hlt
        exact absurd hlt (Nat.not_lt_of_le (calcNodeXorDistance_le selfId nid₁))
    | some second =>
        rw [calcNodeXorDistance_of_some hsecond] at hlt
        cases hfirst : firstNonzero (xorBytes selfId nid₁) with
        | none =>
            rw [value_of_firstNonzero_eq_none hfirst]
            exact value_pos_of_firstNonzero hsecond
        | some first =>
            rw [calcNodeXorDistance_of_some hfirst] at hlt
            have hsmall := zeros_readByte_lt lowestFirst_surjective (value_bounds hfirst).1
            have hle : second.1 ≤ first.1 := by omega
            cases hle.lt_or_eq with
            | inl hposition =>
                exact value_lt_of_position_lt hlength hfirst hsecond hposition
            | inr hposition =>
                have hbytes : first.2 < second.2 :=
                  hordered first.1 first.2 second.2 hfirst (hposition ▸ hsecond) (by omega)
                exact (value_lt_iff_of_position_eq hlength hfirst hsecond hposition.symm
                  (UInt8.ne_of_lt hbytes)).mpr hbytes

namespace KRoutingTable

theorem calcBranch_lt_iff (table : KRoutingTable) (left right : KNode) :
    table.calcBranch left < table.calcBranch right ↔
      calcNodeXorDistance table.selfId right.id < calcNodeXorDistance table.selfId left.id := by
  have hleft := calcNodeXorDistance_le table.selfId left.id
  have hright := calcNodeXorDistance_le table.selfId right.id
  rw [calcBranch, calcBranch]
  omega

/-- Only the own id has branch 0. -/
theorem calcBranch_eq_zero_iff {table : KRoutingTable} {kn : KNode} :
    table.calcBranch kn = 0 ↔ kn.id = table.selfId := by
  have hle := calcNodeXorDistance_le table.selfId kn.id
  rw [eq_comm (a := kn.id), ← calcNodeXorDistance_eq_iff, calcBranch]
  omega

end KRoutingTable

/-- The distance counts the leading zeros of the printed ids, and the branches follow the
XOR metric, exactly where the order of the bits makes no difference. -/
theorem branch_order_iff (nid₁ nid₂ : NodeId) (table : KRoutingTable) (left right : KNode) :
    (calcNodeXorDistance nid₁ nid₂ = leadingZeroBits nid₁ nid₂ ↔
        FirstDifferenceEven nid₁ nid₂) ∧
      ((table.calcBranch left < table.calcBranch right →
          xorDistance table.selfId left.id < xorDistance table.selfId right.id) ↔
        FirstDifferenceOrdered table.selfId left.id right.id) := by
  constructor
  · exact calcNodeXorDistance_eq_leadingZeroBits_iff nid₁ nid₂
  · rw [KRoutingTable.calcBranch_lt_iff]
    exact distance_lt_iff_ordered table.selfId left.id right.id

def hostNode (n : ℕ) : KNode :=
  .ofEndpoint (hostPlatform []) (nodeAt n)

/-- The node `10.0.0.n:8100` with its digest as one number. -/
def nodeOfDigest (n digest : ℕ) : KNode :=
  ⟨nodeAt n, digestOfNat digest⟩

/-- From `10.0.0.1` on, the loop counts one position where the id of `10.0.0.2` shares two
printed bits, and `10.0.0.3` has a lower branch but lies farther away. -/
theorem branch_order_reversed :
    calcNodeXorDistance (hostNode 1).id (hostNode 2).id = 1 ∧
      leadingZeroBits (hostNode 1).id (hostNode 2).id = 2 ∧
      (KRoutingTable.empty (hostNode 1).id).calcBranch (hostNode 3) <
        (KRoutingTable.empty (hostNode 1).id).calcBranch (hostNode 2) ∧
      xorDistance (hostNode 1).id (hostNode 2).id <
        xorDistance (hostNode 1).id (hostNode 3).id := by
  decide +kernel

end SsP2p.Kademlia

import Mathlib.Algebra.GroupWithZero.Nat
import SsP2p.Kademlia.KBucket

/-!
# The routing table

`k_routing_table` with its 160 buckets, and the view of it by endpoints that
`direct_routing_table_controller` gives to the rest of the node.
-/

namespace SsP2p.Kademlia

abbrev kBucketCount : ℕ := 160

/-- `k_routing_table`; `selfId` is its own copy of the id. -/
structure KRoutingTable where
  selfId : NodeId
  buckets : Vector KBucket kBucketCount
  deriving DecidableEq

namespace KRoutingTable

def empty (selfId : NodeId) : KRoutingTable :=
  ⟨selfId, Vector.replicate kBucketCount KBucket.empty⟩

/-- `calc_branch`: 160 minus the distance, so 0 is the own id. -/
def calcBranch (table : KRoutingTable) (kn : KNode) : ℕ :=
  kNodeIdLength * 8 - calcNodeXorDistance table.selfId kn.id

theorem calcBranch_le (table : KRoutingTable) (kn : KNode) :
    table.calcBranch kn ≤ 160 :=
  Nat.sub_le _ _

/-- `max( branch - 1, 0 )`. -/
def branchIndex (branch : ℕ) (hbranch : branch ≤ 160) : Fin kBucketCount :=
  ⟨branch - 1, show branch - 1 < 160 by omega⟩

def calcBranchIndex (table : KRoutingTable) (kn : KNode) : Fin kBucketCount :=
  branchIndex (table.calcBranch kn) (table.calcBranch_le kn)

def bucketAt (table : KRoutingTable) (index : Fin kBucketCount) : KBucket :=
  table.buckets[index.val]

/-- Replace one bucket, as a call on the reference `get_bucket` returns does. -/
def setBucket (table : KRoutingTable) (index : Fin kBucketCount)
    (bucket : KBucket) : KRoutingTable :=
  { table with buckets := table.buckets.set index bucket }

def getBucket (table : KRoutingTable) (kn : KNode) : KBucket :=
  table.bucketAt (table.calcBranchIndex kn)

/-- `get_bucket( unsigned short )`. -/
def getBucketOfBranch (table : KRoutingTable) (branch : ℕ)
    (hbranch : branch ≤ 160) : KBucket :=
  table.bucketAt (branchIndex branch hbranch)

def autoUpdate (table : KRoutingTable) (kn : KNode) :
    UpdateState × KRoutingTable :=
  let index := table.calcBranchIndex kn
  let updated := (table.bucketAt index).autoUpdate kn
  (updated.1, table.setBucket index updated.2)

def isExist (table : KRoutingTable) (kn : KNode) : Bool :=
  (table.getBucket kn).isExist kn

def getNodeCount (table : KRoutingTable) : ℕ :=
  (table.buckets.toList.map KBucket.getNodeCount).sum

def moveBack (table : KRoutingTable) (kn : KNode) : KRoutingTable :=
  table.setBucket (table.calcBranchIndex kn) ((table.getBucket kn).moveBack kn)

def deleteNode (table : KRoutingTable) (kn : KNode) : KRoutingTable :=
  table.setBucket (table.calcBranchIndex kn) ((table.getBucket kn).deleteNode kn)

/-- The `while` loop of `collect_node`.  The two flags say that the scan has
left the table upwards and downwards. -/
def collectLoop (table : KRoutingTable) (rootBranch : ℕ) (maxCount : ℕ)
    (ignoreNodes : List KNode) :
    ℕ → ℕ → Bool → Bool → List KNode → List KNode
  | 0, _, _, _, ret => ret
  | fuel + 1, count, upperFlag, lowerFlag, ret =>
      if ret.length < maxCount && !(upperFlag && lowerFlag) then
        let upper : List KNode × Bool :=
          if h : count + 1 ≤ rootBranch ∧ rootBranch ≤ 160 then
            (ret ++ (table.getBucketOfBranch (rootBranch - count)
              ((Nat.sub_le _ _).trans h.2)).getNodeBack
                (maxCount - ret.length) ignoreNodes, upperFlag)
          else (ret, true)
        let lower : List KNode × Bool :=
          if h : rootBranch + count ≤ 160 then
            (upper.1 ++ (table.getBucketOfBranch (rootBranch + count) h).getNodeBack
              (maxCount - upper.1.length) ignoreNodes, lowerFlag)
          else (upper.1, true)
        collectLoop table rootBranch maxCount ignoreNodes fuel (count + 1)
          upper.2 lower.2 lower.1
      else ret

/-- The number of rounds after which both flags are set. -/
abbrev collectRounds : ℕ := 161

def collectNode (table : KRoutingTable) (rootNode : KNode) (maxCount : ℕ)
    (ignoreNodes : List KNode) : List KNode :=
  let rootBranch := table.calcBranch rootNode
  let ret := (table.getBucketOfBranch rootBranch
    (table.calcBranch_le rootNode)).getNodeBack maxCount ignoreNodes
  collectLoop table rootBranch maxCount ignoreNodes collectRounds 1 false false ret

/-- A node of the table that is not ignored. -/
def Offers (table : KRoutingTable) (ignoreNodes : List KNode) (kn : KNode) : Prop :=
  (∃ index, kn ∈ (table.bucketAt index).nodes) ∧
    ∀ ignored ∈ ignoreNodes, kn.id ≠ ignored.id

theorem offers_of_mem_getNodeBack {table : KRoutingTable} {branch : ℕ}
    {hbranch : branch ≤ 160} {count : ℕ} {ignoreNodes : List KNode} {kn : KNode}
    (hkn : kn ∈ (table.getBucketOfBranch branch hbranch).getNodeBack count ignoreNodes) :
    table.Offers ignoreNodes kn :=
  have hcollected := KBucket.mem_getNodeBack hkn
  ⟨⟨branchIndex branch hbranch, hcollected.1⟩, hcollected.2⟩

theorem offers_of_mem_collectLoop {table : KRoutingTable} {rootBranch maxCount : ℕ}
    {ignoreNodes : List KNode} {kn : KNode} :
    ∀ {fuel count : ℕ} {upperFlag lowerFlag : Bool} {ret : List KNode},
      (∀ other ∈ ret, table.Offers ignoreNodes other) →
      kn ∈ collectLoop table rootBranch maxCount ignoreNodes fuel count upperFlag
        lowerFlag ret →
      table.Offers ignoreNodes kn := by
  intro fuel
  induction fuel with
  | zero =>
      intro count upperFlag lowerFlag ret hret hkn
      exact hret kn hkn
  | succ fuel ih =>
      intro count upperFlag lowerFlag ret hret hkn
      simp only [collectLoop] at hkn
      have hpush : ∀ {nodes : List KNode} {branch : ℕ} {hbranch : branch ≤ 160}
          {size : ℕ}, (∀ other ∈ nodes, table.Offers ignoreNodes other) →
          ∀ other ∈ nodes ++ (table.getBucketOfBranch branch hbranch).getNodeBack size
            ignoreNodes, table.Offers ignoreNodes other := by
        intro nodes branch hbranch size hnodes other hother
        exact (List.mem_append.mp hother).elim (hnodes other) offers_of_mem_getNodeBack
      split_ifs at hkn
      · exact ih (hpush (hpush hret)) hkn
      · exact ih (hpush hret) hkn
      · exact ih (hpush hret) hkn
      · exact ih hret hkn
      · exact hret kn hkn

/-- What is collected is stored in the table and not ignored. -/
theorem offers_of_mem_collectNode {table : KRoutingTable} {rootNode : KNode}
    {maxCount : ℕ} {ignoreNodes : List KNode} {kn : KNode}
    (hkn : kn ∈ table.collectNode rootNode maxCount ignoreNodes) :
    table.Offers ignoreNodes kn :=
  offers_of_mem_collectLoop (fun _ => offers_of_mem_getNodeBack) hkn

/-- Once both flags are set at the latest, more rounds change nothing. -/
theorem collectLoop_add_fuel (table : KRoutingTable) {rootBranch : ℕ}
    (hroot : rootBranch ≤ 160) (maxCount : ℕ)
    (ignoreNodes : List KNode) (extra : ℕ) :
    ∀ (fuel count : ℕ) (upperFlag lowerFlag : Bool) (ret : List KNode),
      162 ≤ count + fuel →
      (2 ≤ count → rootBranch < count → upperFlag = true) →
      (2 ≤ count → 160 < rootBranch + (count - 1) → lowerFlag = true) →
      collectLoop table rootBranch maxCount ignoreNodes (fuel + extra) count
          upperFlag lowerFlag ret =
        collectLoop table rootBranch maxCount ignoreNodes fuel count
          upperFlag lowerFlag ret := by
  intro fuel
  induction fuel with
  | zero =>
      intro count upperFlag lowerFlag ret hfuel hupper hlower
      have hupper : upperFlag = true := hupper (by omega) (by omega)
      have hlower : lowerFlag = true := hlower (by omega) (by omega)
      subst hupper hlower
      cases extra with
      | zero => rfl
      | succ extra => simp [collectLoop]
  | succ fuel ih =>
      intro count upperFlag lowerFlag ret hfuel hupper hlower
      rw [Nat.add_right_comm]
      simp only [collectLoop]
      split_ifs
      all_goals first
        | rfl
        | exact ih _ _ _ _ (by omega) (by grind) (by grind)

theorem collectNode_rounds (table : KRoutingTable) (rootNode : KNode)
    (maxCount : ℕ) (ignoreNodes : List KNode) (extra : ℕ) :
    collectLoop table (table.calcBranch rootNode) maxCount ignoreNodes
        (collectRounds + extra) 1 false false
        ((table.getBucketOfBranch (table.calcBranch rootNode)
          (table.calcBranch_le rootNode)).getNodeBack maxCount ignoreNodes) =
      table.collectNode rootNode maxCount ignoreNodes :=
  collectLoop_add_fuel table (table.calcBranch_le rootNode) maxCount ignoreNodes
    extra collectRounds 1 false false _ le_rfl (by omega) (by omega)

end KRoutingTable

end SsP2p.Kademlia

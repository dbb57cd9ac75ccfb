import SsP2p.Kademlia.TableInvariant

/-!
# Iterating over the buckets

`k_bucket_iterator` holds an iterator into the table and a branch, which move on
together until the branch leaves the table.
-/

namespace SsP2p.Kademlia

structure KBucketIterator where
  position : ℤ
  branch : ℤ
  deriving DecidableEq

namespace KBucketIterator

def isInvalid (itr : KBucketIterator) : Bool :=
  decide (itr.branch ≤ 0) || decide (161 ≤ itr.branch)

/-- `operator++`, before or after: past the last branch the position stays. -/
def increment (itr : KBucketIterator) : KBucketIterator :=
  let moved : KBucketIterator := { itr with branch := itr.branch + 1 }
  if moved.isInvalid then { moved with branch := kBucketCount + 1 }
  else { moved with position := itr.position + 1 }

/-- `operator++()`: what is returned is the iterator itself. -/
def preIncrement (itr : KBucketIterator) : KBucketIterator × KBucketIterator :=
  (itr.increment, itr.increment)

/-- `operator++( int )`: what is returned is a copy from before. -/
def postIncrement (itr : KBucketIterator) : KBucketIterator × KBucketIterator :=
  (itr, itr.increment)

/-- `operator--`, before or after: past the first branch the position stays. -/
def decrement (itr : KBucketIterator) : KBucketIterator :=
  let moved : KBucketIterator := { itr with branch := itr.branch - 1 }
  if moved.isInvalid then { moved with branch := 0 }
  -- `_bucket_itr++`, as in `operator++`.
  else { moved with position := itr.position + 1 }

def preDecrement (itr : KBucketIterator) : KBucketIterator × KBucketIterator :=
  (itr.decrement, itr.decrement)

def postDecrement (itr : KBucketIterator) : KBucketIterator × KBucketIterator :=
  (itr, itr.decrement)

/-- `to_begin`: `std::advance( _bucket_itr, (-_branch-1) )`. -/
def toBegin (itr : KBucketIterator) : KBucketIterator :=
  { position := itr.position + (-itr.branch - 1), branch := 1 }

def getBranch (itr : KBucketIterator) : UInt16 := UInt16.ofInt itr.branch

/-- `get_raw`, `none` where the position is outside of the table. -/
def getRaw (itr : KBucketIterator) : Option (Fin kBucketCount) :=
  if h : 0 ≤ itr.position ∧ itr.position < kBucketCount then
    some ⟨itr.position.toNat, by omega⟩
  else none

def dereference (itr : KBucketIterator) : Option (Fin kBucketCount) := itr.getRaw

/-- The iterator at a position of the table, with the branch that belongs to it. -/
def ofPosition (position : ℕ) : KBucketIterator := ⟨position, position + 1⟩

theorem isInvalid_iff {itr : KBucketIterator} :
    itr.isInvalid = true ↔ itr.branch < 1 ∨ kBucketCount < itr.branch := by
  have hcount : kBucketCount = 160 := rfl
  rw [isInvalid, Bool.or_eq_true, decide_eq_true_eq, decide_eq_true_eq]
  omega

theorem isInvalid_eq_false_iff {itr : KBucketIterator} :
    itr.isInvalid = false ↔ 1 ≤ itr.branch ∧ itr.branch ≤ kBucketCount := by
  rw [Bool.eq_false_iff, ne_eq, isInvalid_iff]
  omega

theorem isInvalid_ofPosition (position : ℕ) :
    (ofPosition position).isInvalid = true ↔ kBucketCount ≤ position := by
  simp only [isInvalid_iff, ofPosition]
  omega

/-- Within the table the iterator moves on by one. -/
theorem increment_ofPosition {position : ℕ} (hnext : position + 1 < kBucketCount) :
    (ofPosition position).increment = ofPosition (position + 1) := by
  have hvalid : ¬ (⟨position, position + 1 + 1⟩ : KBucketIterator).isInvalid = true := by
    simp only [isInvalid_iff]
    omega
  rw [increment, ofPosition]
  dsimp only
  rw [if_neg hvalid]
  rfl

/-- After the last bucket the iterator is invalid. -/
theorem isInvalid_increment_last :
    (ofPosition (kBucketCount - 1)).increment.isInvalid = true := rfl

theorem getRaw_ofPosition {position : ℕ} (hposition : position < kBucketCount) :
    (ofPosition position).getRaw = some ⟨position, hposition⟩ := by
  have hbounds : 0 ≤ (position : ℤ) ∧ (position : ℤ) < kBucketCount :=
    ⟨Int.natCast_nonneg position, Int.ofNat_lt.mpr hposition⟩
  rw [getRaw]
  exact dif_pos hbounds

end KBucketIterator

namespace KRoutingTable

/-- `get_begin_bucket_iterator`: branches start at 1. -/
def getBeginBucketIterator : KBucketIterator := ⟨0, 1⟩

/-- Every stored node with its bucket, bucket by bucket. -/
def entriesFrom (table : KRoutingTable) (position : ℕ) :
    List (Fin kBucketCount × KNode) :=
  ((List.finRange kBucketCount).drop position).flatMap fun index =>
    (table.bucketAt index).getNodes.map (index, ·)

theorem entriesFrom_of_lt (table : KRoutingTable) {position : ℕ}
    (hposition : position < kBucketCount) :
    table.entriesFrom position =
      (table.bucketAt ⟨position, hposition⟩).getNodes.map (⟨position, hposition⟩, ·) ++
        table.entriesFrom (position + 1) := by
  have hlength : position < (List.finRange kBucketCount).length := by
    rwa [List.length_finRange]
  rw [entriesFrom, List.drop_eq_getElem_cons hlength, List.flatMap_cons, entriesFrom]
  congr 2
  · simp
  · simp

theorem entriesFrom_of_ge (table : KRoutingTable) {position : ℕ}
    (hposition : kBucketCount ≤ position) : table.entriesFrom position = [] := by
  rw [entriesFrom, List.drop_of_length_le (by rwa [List.length_finRange])]
  rfl

theorem mem_entriesFrom_zero {table : KRoutingTable}
    {entry : Fin kBucketCount × KNode} :
    entry ∈ table.entriesFrom 0 ↔ entry.2 ∈ (table.bucketAt entry.1).nodes := by
  simp only [entriesFrom, List.drop_zero, List.mem_flatMap, List.mem_finRange, true_and,
    KBucket.getNodes, List.mem_map]
  constructor
  · rintro ⟨index, kn, hkn, rfl⟩
    exact hkn
  · intro hkn
    exact ⟨entry.1, entry.2, hkn, rfl⟩

/-- The nodes that are met on the way through the buckets are all stored nodes. -/
theorem map_node_entriesFrom_zero (table : KRoutingTable) :
    (table.entriesFrom 0).map Prod.snd = table.allNodes := by
  rw [allNodes, toList_buckets, entriesFrom, List.drop_zero, List.map_flatMap, List.map_map,
    List.flatMap_def]
  congr 1
  apply List.map_congr_left
  intro index _
  simp [KBucket.getNodes, Function.comp_def]

end KRoutingTable

end SsP2p.Kademlia

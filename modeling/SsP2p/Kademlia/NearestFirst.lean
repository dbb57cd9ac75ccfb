import SsP2p.Kademlia.CollectNode

/-!
# The nearest nodes first

`collect_node` walks over the table in the arithmetic of the source, here with every
access to the table, every difference of sizes and the number of rounds checked.  The walk
never fails, and what it returns comes nearest bucket first and leaves no nearer node out.
-/

namespace SsP2p.Kademlia

namespace KRoutingTable

/-! ## The walk in the arithmetic of the source -/

section Walk

variable (table : KRoutingTable) (ignoreNodes : List KNode)

/-- `get_bucket( unsigned short )` with an `int`, `none` outside of the table. -/
def bucketOfInt (branch : ℤ) : Option KBucket :=
  table.buckets[(max (branch % 65536 - 1) 0).toNat]?

/-- The difference of two sizes, `none` where it would wrap around. -/
def sizeDifference (left right : ℕ) : Option ℕ :=
  if right ≤ left then some (left - right) else none

/-- Ask the bucket of a branch for the missing nodes. -/
def askBucket (branch : ℤ) (maxCount : ℕ) (ret : List KNode) : Option (List KNode) := do
  let remainingNodesCount ← sizeDifference maxCount ret.length
  let bucket ← table.bucketOfInt branch
  return ret ++ bucket.getNodeBack remainingNodesCount ignoreNodes

/-- The first half of a round: the bucket above, where the table has it. -/
def askUpper (rootBranch : ℤ) (maxCount count : ℕ) (ret : List KNode) :
    Option (List KNode) :=
  if rootBranch - count ≥ 1 then
    table.askBucket ignoreNodes (rootBranch - count) maxCount ret
  else some ret

/-- The second half of a round: the bucket below, where the table has it. -/
def askLower (rootBranch : ℤ) (maxCount count : ℕ) (ret : List KNode) :
    Option (List KNode) :=
  if rootBranch + count ≤ 160 then
    table.askBucket ignoreNodes (rootBranch + count) maxCount ret
  else some ret

/-- The `while` loop, `none` also where the rounds do not suffice. -/
def walk (rootBranch : ℤ) (maxCount : ℕ) :
    ℕ → ℕ → Bool → Bool → List KNode → Option (List KNode)
  | 0, _, _, _, _ => none
  | rounds + 1, count, upperFlag, lowerFlag, ret =>
      if ret.length < maxCount && !(upperFlag && lowerFlag) then do
        let upper ← table.askUpper ignoreNodes rootBranch maxCount count ret
        let lower ← table.askLower ignoreNodes rootBranch maxCount count upper
        walk rootBranch maxCount rounds (count + 1)
          (if rootBranch - count ≥ 1 then upperFlag else true)
          (if rootBranch + count ≤ 160 then lowerFlag else true) lower
      else some ret

/-- `collect_node` with its checks. -/
def collectNodeChecked (rootNode : KNode) (maxCount : ℕ) : Option (List KNode) := do
  let rootBranch : ℤ := table.calcBranch rootNode
  let ret ← table.askBucket ignoreNodes rootBranch maxCount []
  table.walk ignoreNodes rootBranch maxCount (collectRounds + 1) 1 false false ret

variable {table ignoreNodes}

/-- Branches up to 160 lie within the table. -/
theorem bucketOfInt_eq {branch : ℕ} (hbranch : branch ≤ 160) :
    table.bucketOfInt branch = some (table.getBucketOfBranch branch hbranch) := by
  have hindex : (max ((branch : ℤ) % 65536 - 1) 0).toNat = branch - 1 := by omega
  have hinside : branch - 1 < kBucketCount := (branchIndex branch hbranch).isLt
  rw [bucketOfInt, hindex, Vector.getElem?_eq_getElem hinside]
  rfl

theorem askBucket_eq {branch maxCount : ℕ} {ret : List KNode} (hbranch : branch ≤ 160)
    (hle : ret.length ≤ maxCount) :
    table.askBucket ignoreNodes branch maxCount ret =
      some (QuotaScan.draw maxCount ret
        ((table.getBucketOfBranch branch hbranch).offered ignoreNodes)) := by
  rw [askBucket, sizeDifference, if_pos hle, bucketOfInt_eq hbranch,
    ← KBucket.append_getNodeBack]
  rfl

theorem upper_guard_iff {rootBranch count : ℕ} :
    (rootBranch : ℤ) - count ≥ 1 ↔ count < rootBranch := by
  omega

theorem lower_guard_iff {rootBranch count : ℕ} :
    (rootBranch : ℤ) + count ≤ 160 ↔ rootBranch + count ≤ 160 := by
  omega

theorem askUpper_eq {rootBranch maxCount count : ℕ} {ret : List KNode}
    (hroot : rootBranch ≤ 160) (hle : ret.length ≤ maxCount) :
    table.askUpper ignoreNodes rootBranch maxCount count ret =
      some (QuotaScan.draw maxCount ret (table.ring ignoreNodes rootBranch count).1) := by
  simp only [askUpper, upper_guard_iff, ring]
  split
  · rename_i hup
    have hbranch : rootBranch - count ≤ 160 := (Nat.sub_le _ _).trans hroot
    rw [← Nat.cast_sub hup.le, askBucket_eq hbranch hle, offeredAt, dif_pos hbranch]
  · rw [QuotaScan.draw_nil]

theorem askLower_eq {rootBranch maxCount count : ℕ} {ret : List KNode}
    (hle : ret.length ≤ maxCount) :
    table.askLower ignoreNodes rootBranch maxCount count ret =
      some (QuotaScan.draw maxCount ret (table.ring ignoreNodes rootBranch count).2) := by
  simp only [askLower, lower_guard_iff, ring]
  split
  · rename_i hlow
    rw [← Nat.cast_add, askBucket_eq hlow hle, offeredAt, dif_pos hlow]
  · rename_i hlow
    rw [offeredAt, dif_neg hlow, QuotaScan.draw_nil]

/-- The walk scans the rings, and is done before its rounds run out. -/
theorem walk_eq_scan {rootBranch : ℕ} (hroot : rootBranch ≤ 160) (maxCount rounds : ℕ) :
    ∀ (count : ℕ) (upperFlag lowerFlag : Bool) (ret : List KNode),
      162 ≤ count + rounds →
      (upperFlag = true → rootBranch ≤ count) →
      (lowerFlag = true → 160 < rootBranch + count) →
      (2 ≤ count → rootBranch < count → upperFlag = true) →
      (2 ≤ count → 160 < rootBranch + (count - 1) → lowerFlag = true) →
      table.walk ignoreNodes rootBranch maxCount (rounds + 1) count upperFlag lowerFlag ret =
        some (QuotaScan.scan maxCount ret
          ((List.range' count rounds).map (table.ring ignoreNodes rootBranch))) := by
  induction rounds with
  | zero =>
      intro count upperFlag lowerFlag ret hrounds _ _ hupper hlower
      rw [walk, hupper (by omega) (by omega), hlower (by omega) (by omega)]
      simp [QuotaScan.scan]
  | succ rounds ih =>
      intro count upperFlag lowerFlag ret hrounds hupperPast hlowerPast hupper hlower
      rw [walk]
      by_cases hflags : (upperFlag && lowerFlag) = true
      · have hboth := Bool.and_eq_true_iff.mp hflags
        rw [scan_of_flags ret (rounds + 1) count (hupperPast hboth.1) (hlowerPast hboth.2),
          hflags, Bool.not_true, Bool.and_false, if_neg Bool.false_ne_true]
      · rw [Bool.not_eq_true] at hflags
        rw [List.range'_succ, List.map_cons, QuotaScan.scan, hflags, Bool.not_false,
          Bool.and_true]
        by_cases hmore : ret.length < maxCount
        · rw [if_pos (decide_eq_true hmore), if_pos hmore, askUpper_eq hroot hmore.le,
            Option.bind_eq_bind, Option.bind_some,
            askLower_eq (QuotaScan.length_draw_le hmore _), Option.bind_some]
          simp only [upper_guard_iff, lower_guard_iff]
          apply ih
          · omega
          · split
            · intro hflag
              exact (hupperPast hflag).trans (Nat.le_succ count)
            · intro _
              omega
          · split
            · intro hflag
              exact (hlowerPast hflag).trans (Nat.lt_succ_self _)
            · intro _
              omega
          · intro _ hpast
            split
            · omega
            · rfl
          · intro _ hpast
            split
            · omega
            · rfl
        · rw [if_neg (by simpa using hmore), if_neg hmore]

variable (table ignoreNodes) in
/-- `collect_node` ends, stays within the table, and never wraps around. -/
theorem collectNodeChecked_eq (rootNode : KNode) (maxCount : ℕ) :
    table.collectNodeChecked ignoreNodes rootNode maxCount =
      some (table.collectNode rootNode maxCount ignoreNodes) := by
  have hroot := table.calcBranch_le rootNode
  rw [collectNodeChecked, askBucket_eq hroot (Nat.zero_le _), Option.bind_eq_bind,
    Option.bind_some, walk_eq_scan hroot maxCount collectRounds 1 false false _ le_rfl
      (fun hflag => absurd hflag Bool.false_ne_true)
      (fun hflag => absurd hflag Bool.false_ne_true) (by omega) (by omega),
    ← KBucket.append_getNodeBack, List.nil_append, List.length_nil, Nat.sub_zero, collectNode,
    collectLoop_eq_scan hroot maxCount collectRounds 1 false false _
      (fun hflag => absurd hflag Bool.false_ne_true)
      (fun hflag => absurd hflag Bool.false_ne_true)]

end Walk

/-! ## Rings -/

/-- The branch of the bucket that a node belongs to: the own id shares the first one. -/
def bucketBranch (table : KRoutingTable) (kn : KNode) : ℕ :=
  max (table.calcBranch kn) 1

section Rings

variable {table : KRoutingTable} {ignoreNodes : List KNode}

theorem calcBranchIndex_val (kn : KNode) :
    (table.calcBranchIndex kn).val = table.bucketBranch kn - 1 := by
  rw [bucketBranch, calcBranchIndex, branchIndex]
  dsimp only
  omega

/-- Two nodes of the same bucket belong to the same branch. -/
theorem bucketBranch_eq_of_index_eq {left right : KNode}
    (heq : table.calcBranchIndex left = table.calcBranchIndex right) :
    table.bucketBranch left = table.bucketBranch right := by
  have hval := congrArg Fin.val heq
  have hleft : 1 ≤ table.bucketBranch left := Nat.le_max_right _ _
  have hright : 1 ≤ table.bucketBranch right := Nat.le_max_right _ _
  rw [calcBranchIndex_val, calcBranchIndex_val] at hval
  omega

theorem mem_offeredAt {branch : ℕ} {kn : KNode} (hbranch : branch ≤ 160) :
    kn ∈ table.offeredAt ignoreNodes branch ↔
      kn ∈ (table.getBucketOfBranch branch hbranch).nodes ∧
        ∀ ignored ∈ ignoreNodes, kn.id ≠ ignored.id := by
  rw [offeredAt, dif_pos hbranch, KBucket.mem_offered]

/-- What the bucket of a branch offers belongs to that branch. -/
theorem bucketBranch_of_mem (hplaced : table.Placed) {branch : ℕ} {kn : KNode}
    (hpositive : 1 ≤ branch) (hkn : kn ∈ table.offeredAt ignoreNodes branch) :
    table.bucketBranch kn = branch := by
  by_cases hbranch : branch ≤ 160
  · have hstored := ((mem_offeredAt hbranch).mp hkn).1
    have hindex := congrArg Fin.val (hplaced _ kn hstored)
    rw [calcBranchIndex_val, branchIndex] at hindex
    have hone : 1 ≤ table.bucketBranch kn := Nat.le_max_right _ _
    dsimp only at hindex
    omega
  · rw [offeredAt, dif_neg hbranch] at hkn
    cases hkn

/-- The upper bucket of a ring lies `count` branches above the root. -/
theorem bucketBranch_of_mem_upper (hplaced : table.Placed) {rootBranch count : ℕ} {kn : KNode}
    (hkn : kn ∈ (table.ring ignoreNodes rootBranch count).1) :
    count < rootBranch ∧ table.bucketBranch kn = rootBranch - count := by
  rw [ring] at hkn
  dsimp only at hkn
  split at hkn
  · rename_i hup
    exact ⟨hup, bucketBranch_of_mem hplaced (Nat.sub_pos_of_lt hup) hkn⟩
  · cases hkn

/-- The lower bucket of a ring lies `count` branches below the root. -/
theorem bucketBranch_of_mem_lower (hplaced : table.Placed) {rootBranch count : ℕ} {kn : KNode}
    (hpositive : 1 ≤ rootBranch)
    (hkn : kn ∈ (table.ring ignoreNodes rootBranch count).2) :
    table.bucketBranch kn = rootBranch + count :=
  bucketBranch_of_mem hplaced (hpositive.trans (Nat.le_add_right _ _)) hkn

/-- What lies less than `count` branches away does. -/
theorem branchDistance_of_mem_nearer (hplaced : table.Placed) {rootBranch count : ℕ}
    {kn : KNode} (hpositive : 1 ≤ rootBranch)
    (hkn : kn ∈ table.nearer ignoreNodes rootBranch count) :
    branchDistance (table.bucketBranch kn) rootBranch < count := by
  obtain ⟨round, hround, hmem⟩ := List.mem_flatMap.mp hkn
  obtain ⟨position, hposition, hget⟩ := List.mem_iff_getElem.mp hround
  have hlength : (table.rounds ignoreNodes rootBranch).length = collectRounds + 1 := by
    rw [rounds, List.length_cons, List.length_map, List.length_range']
  rw [List.getElem_take] at hget
  rw [List.length_take, hlength] at hposition
  cases position with
  | zero =>
      obtain rfl : ([], table.offeredAt ignoreNodes rootBranch) = round := hget
      rw [List.nil_append] at hmem
      rw [bucketBranch_of_mem hplaced hpositive hmem, branchDistance]
      omega
  | succ position =>
      have hsome : (table.rounds ignoreNodes rootBranch)[position + 1]? =
          some (table.ring ignoreNodes rootBranch (position + 1)) :=
        getElem?_rounds (Nat.le_add_left 1 position) (by omega)
      rw [List.getElem?_eq_getElem (by rw [hlength]; omega), hget] at hsome
      obtain rfl := Option.some.inj hsome
      rw [branchDistance]
      cases List.mem_append.mp hmem with
      | inl hupper =>
          have hbranch := bucketBranch_of_mem_upper hplaced hupper
          omega
      | inr hlower =>
          have hbranch := bucketBranch_of_mem_lower hplaced hpositive hlower
          omega

theorem mem_allOffered {kn : KNode} :
    kn ∈ table.allOffered ignoreNodes ↔ table.Offers ignoreNodes kn := by
  rw [allOffered, List.mem_filter, Bool.not_eq_true', isIgnored_eq_false_iff, mem_allNodes,
    Offers]

variable {rootBranch : ℕ} (hpositive : 1 ≤ rootBranch) (hroot : rootBranch ≤ 160)

include hpositive hroot

/-- From a branch of the table, everything that is offered is on the way. -/
theorem mem_items_rounds {kn : KNode} :
    kn ∈ QuotaScan.items (table.rounds ignoreNodes rootBranch) ↔
      table.Offers ignoreNodes kn := by
  rw [items_rounds, ((visitOrder_perm hpositive hroot).flatMap_right _).mem_iff,
    (offeredAt_perm table ignoreNodes).mem_iff, mem_allOffered]

theorem one_le_of_mem_visitOrder {branch : ℕ} (hbranch : branch ∈ visitOrder rootBranch) :
    1 ≤ branch :=
  (List.mem_range'_1.mp ((visitOrder_perm hpositive hroot).mem_iff.mp hbranch)).1

variable (hplaced : table.Placed)

include hplaced

/-- The nodes on the way come nearest bucket first. -/
theorem pairwise_items_rounds :
    (QuotaScan.items (table.rounds ignoreNodes rootBranch)).Pairwise fun first second =>
      branchDistance (table.bucketBranch first) rootBranch ≤
        branchDistance (table.bucketBranch second) rootBranch := by
  rw [items_rounds, List.pairwise_flatMap]
  constructor
  · intro branch hbranch
    have hone := one_le_of_mem_visitOrder hpositive hroot hbranch
    apply List.pairwise_of_forall_mem_list
    intro first hfirst second hsecond
    rw [bucketBranch_of_mem hplaced hone hfirst, bucketBranch_of_mem hplaced hone hsecond]
  · apply (pairwise_visitOrder rootBranch).imp_of_mem
    intro near far hnear hfar hpair first hfirst second hsecond
    rw [bucketBranch_of_mem hplaced (one_le_of_mem_visitOrder hpositive hroot hnear) hfirst,
      bucketBranch_of_mem hplaced (one_le_of_mem_visitOrder hpositive hroot hfar) hsecond]
    exact hpair.2

end Rings

/-! ## What is returned -/

theorem flatMap_single {Item : Type*} {branches : List ℕ} {branch : ℕ}
    (hdistinct : branches.Nodup) (hbranch : branch ∈ branches) (nodes : List Item) :
    (branches.flatMap fun other => if other = branch then nodes else []) = nodes := by
  have hnone : ∀ others : List ℕ, branch ∉ others →
      (others.flatMap fun other => if other = branch then nodes else []) = [] := by
    intro others hnotMem
    rw [List.flatMap_eq_nil_iff]
    intro other hother
    rw [if_neg (ne_of_mem_of_not_mem hother hnotMem)]
  induction branches with
  | nil => cases hbranch
  | cons head rest ih =>
      obtain ⟨hnotMem, hrest⟩ := List.nodup_cons.mp hdistinct
      rw [List.flatMap_cons]
      cases List.mem_cons.mp hbranch with
      | inl heq =>
          subst heq
          rw [if_pos rfl, hnone rest hnotMem, List.append_nil]
      | inr hmem =>
          rw [if_neg (fun heq : head = branch => hnotMem (heq ▸ hmem)), List.nil_append,
            ih hrest hmem]

/-- What `collect_node` returns is offered, and comes in rings, where the branch of a node is
given by `branchOf`. -/
structure NearestFirst (table : KRoutingTable) (branchOf : KNode → ℕ) (rootNode : KNode)
    (maxCount : ℕ) (ignoreNodes : List KNode) : Prop where
  offered : ∀ kn ∈ table.collectNode rootNode maxCount ignoreNodes,
    table.Offers ignoreNodes kn
  sorted : (table.collectNode rootNode maxCount ignoreNodes).Pairwise fun first second =>
    branchDistance (branchOf first) (table.calcBranch rootNode) ≤
      branchDistance (branchOf second) (table.calcBranch rootNode)
  /-- Of every bucket, the most recently seen nodes are returned, in that order. -/
  recent : ∀ index, ((table.collectNode rootNode maxCount ignoreNodes).filter fun kn =>
    table.calcBranchIndex kn = index) <+: (table.bucketAt index).offered ignoreNodes
  /-- No nearer node is left out. -/
  nearest : ∀ kn other, table.Offers ignoreNodes kn →
    other ∈ table.collectNode rootNode maxCount ignoreNodes →
    branchDistance (branchOf kn) (table.calcBranch rootNode) <
      branchDistance (branchOf other) (table.calcBranch rootNode) →
    kn ∈ table.collectNode rootNode maxCount ignoreNodes
  /-- Fewer nodes than asked for are all there are. -/
  complete : (table.collectNode rootNode maxCount ignoreNodes).length < maxCount →
    ∀ kn, table.Offers ignoreNodes kn → kn ∈ table.collectNode rootNode maxCount ignoreNodes

section Returned

variable {table : KRoutingTable} {ignoreNodes : List KNode} (hplaced : table.Placed)

include hplaced

/-- In the bucket of a branch, the nodes of another one are not found. -/
theorem filter_offeredAt {branch : ℕ} (hpositive : 1 ≤ branch) (index : Fin kBucketCount) :
    (table.offeredAt ignoreNodes branch).filter (fun kn => table.calcBranchIndex kn = index) =
      if branch = index.val + 1 then (table.bucketAt index).offered ignoreNodes else [] := by
  split
  · rename_i heq
    have hbranch : branch ≤ 160 := heq ▸ index.isLt
    have hindex : branchIndex branch hbranch = index := by
      apply Fin.ext
      show branch - 1 = index.val
      omega
    have hall : table.offeredAt ignoreNodes branch =
        (table.bucketAt index).offered ignoreNodes := by
      rw [offeredAt, dif_pos hbranch, getBucketOfBranch, hindex]
    rw [hall, List.filter_eq_self]
    intro kn hkn
    rw [decide_eq_true_eq]
    exact hplaced index kn (KBucket.mem_offered.mp hkn).1
  · rename_i hne
    rw [List.filter_eq_nil_iff]
    intro kn hkn
    rw [decide_eq_true_eq]
    intro hindex
    have hbranch := bucketBranch_of_mem hplaced hpositive hkn
    have hval : (table.calcBranchIndex kn).val = table.bucketBranch kn - 1 :=
      calcBranchIndex_val kn
    rw [hindex, hbranch] at hval
    omega

/-- On the way from a branch of the table, every bucket is met once. -/
theorem filter_items_rounds {rootBranch : ℕ} (hpositive : 1 ≤ rootBranch)
    (hroot : rootBranch ≤ 160) (index : Fin kBucketCount) :
    (QuotaScan.items (table.rounds ignoreNodes rootBranch)).filter
        (fun kn => table.calcBranchIndex kn = index) =
      (table.bucketAt index).offered ignoreNodes := by
  have hvisited : index.val + 1 ∈ visitOrder rootBranch := by
    have hlt : index.val < 160 := index.isLt
    rw [(visitOrder_perm hpositive hroot).mem_iff, List.mem_range'_1]
    omega
  calc (QuotaScan.items (table.rounds ignoreNodes rootBranch)).filter
        (fun kn => table.calcBranchIndex kn = index)
      = (visitOrder rootBranch).flatMap fun branch =>
          if branch = index.val + 1 then (table.bucketAt index).offered ignoreNodes else [] := by
        rw [items_rounds, List.filter_flatMap]
        apply List.flatMap_congr
        intro branch hbranch
        exact filter_offeredAt hplaced (one_le_of_mem_visitOrder hpositive hroot hbranch) index
    _ = (table.bucketAt index).offered ignoreNodes :=
        flatMap_single ((pairwise_visitOrder rootBranch).imp And.left) hvisited _

/-- The bucket below comes before no other node of the same bucket. -/
theorem separate_rounds {rootBranch : ℕ} (hpositive : 1 ≤ rootBranch)
    (index : Fin kBucketCount) (position : ℕ) (round : QuotaScan.Round KNode)
    (hround : (table.rounds ignoreNodes rootBranch)[position]? = some round) {kn other : KNode}
    (hkn : kn ∈ round.2) (hindex : table.calcBranchIndex kn = index)
    (hother : other ∈ table.nearer ignoreNodes rootBranch position ++ round.1) :
    table.calcBranchIndex other ≠ index := by
  intro hsame
  have hbranch := bucketBranch_eq_of_index_eq (hindex.trans hsame.symm)
  cases position with
  | zero =>
      obtain rfl : ([], table.offeredAt ignoreNodes rootBranch) = round :=
        Option.some.inj hround
      cases hother
  | succ position =>
      have hlength := (List.getElem?_eq_some_iff.mp hround).1
      rw [rounds, List.length_cons, List.length_map, List.length_range'] at hlength
      rw [getElem?_rounds (Nat.le_add_left 1 position) (by omega)] at hround
      obtain rfl := Option.some.inj hround
      have hlower := bucketBranch_of_mem_lower hplaced hpositive hkn
      cases List.mem_append.mp hother with
      | inl hnearer =>
          have hdistance := branchDistance_of_mem_nearer hplaced hpositive hnearer
          rw [branchDistance] at hdistance
          omega
      | inr hup =>
          have hupper := bucketBranch_of_mem_upper hplaced hup
          omega

/-- Both buckets of a round are equally far away. -/
theorem branchDistance_rounds {rootBranch : ℕ} (hpositive : 1 ≤ rootBranch)
    (round : QuotaScan.Round KNode) (hround : round ∈ table.rounds ignoreNodes rootBranch)
    (first : KNode) (hfirst : first ∈ round.1) (second : KNode) (hsecond : second ∈ round.2) :
    branchDistance (table.bucketBranch second) rootBranch ≤
      branchDistance (table.bucketBranch first) rootBranch := by
  cases List.mem_cons.mp hround with
  | inl hcenter =>
      rw [hcenter] at hfirst
      cases hfirst
  | inr hring =>
      obtain ⟨count, -, rfl⟩ := List.mem_map.mp hring
      have hupper := bucketBranch_of_mem_upper hplaced hfirst
      have hlower := bucketBranch_of_mem_lower hplaced hpositive hsecond
      rw [branchDistance, branchDistance]
      omega

/-- From a root with another id, `collect_node` returns the nearest buckets first. -/
theorem nearestFirst_of_ne {rootNode : KNode} (hne : rootNode.id ≠ table.selfId)
    (maxCount : ℕ) : table.NearestFirst table.bucketBranch rootNode maxCount ignoreNodes := by
  have hroot := table.calcBranch_le rootNode
  have hpositive : 1 ≤ table.calcBranch rootNode :=
    Nat.pos_of_ne_zero fun hzero => hne (calcBranch_eq_zero_iff.mp hzero)
  have hitems : ∀ kn, table.Offers ignoreNodes kn →
      kn ∈ QuotaScan.items (table.rounds ignoreNodes (table.calcBranch rootNode)) :=
    fun _ hkn => (mem_items_rounds hpositive hroot).mpr hkn
  cases Nat.eq_zero_or_pos maxCount with
  | inl hzero =>
      subst hzero
      have hcenter : ∀ kn ∈ table.collectNode rootNode 0 ignoreNodes,
          kn ∈ table.offeredAt ignoreNodes (table.calcBranch rootNode) := by
        intro kn hkn
        rw [collectNode_zero] at hkn
        exact List.mem_of_mem_take hkn
      have hdistance : ∀ kn ∈ table.collectNode rootNode 0 ignoreNodes,
          branchDistance (table.bucketBranch kn) (table.calcBranch rootNode) = 0 := by
        intro kn hkn
        rw [bucketBranch_of_mem hplaced hpositive (hcenter kn hkn), branchDistance, sub_self]
        rfl
      refine ⟨fun kn hkn => offers_of_mem_collectNode hkn, ?_, ?_, ?_, ?_⟩
      · apply List.pairwise_of_forall_mem_list
        intro first hfirst second hsecond
        rw [hdistance first hfirst, hdistance second hsecond]
      · intro index
        rw [collectNode_zero]
        apply ((List.take_prefix _ _).filter _).trans
        rw [filter_offeredAt hplaced hpositive]
        split
        · exact List.prefix_rfl
        · exact List.nil_prefix
      · intro kn other _ hother hlt
        rw [hdistance other hother] at hlt
        exact absurd hlt (Nat.not_lt_zero _)
      · intro hshort
        exact absurd hshort (Nat.not_lt_zero _)
  | inr hmax =>
      have hnil : ([] : List KNode).length ≤ maxCount := Nat.zero_le _
      have hsorted : (QuotaScan.items (table.rounds ignoreNodes
          (table.calcBranch rootNode))).Pairwise fun first second =>
            branchDistance (table.bucketBranch first) (table.calcBranch rootNode) ≤
              branchDistance (table.bucketBranch second) (table.calcBranch rootNode) :=
        pairwise_items_rounds hpositive hroot hplaced
      refine ⟨fun kn hkn => offers_of_mem_collectNode hkn, ?_, ?_, ?_, ?_⟩
      · rw [collectNode_eq_scan rootNode hmax]
        exact hsorted.sublist (QuotaScan.scan_sublist hnil _)
      · intro index
        rw [collectNode_eq_scan rootNode hmax,
          ← filter_items_rounds hplaced hpositive hroot index]
        apply QuotaScan.filter_scan_prefix hnil
        intro position round hround kn hkn hselect other hother
        rw [decide_eq_true_eq] at hselect
        rw [decide_eq_false_iff_not]
        exact separate_rounds hplaced hpositive index position round hround hkn hselect hother
      · intro kn other hkn hother hlt
        rw [collectNode_eq_scan rootNode hmax] at hother ⊢
        exact QuotaScan.mem_scan_of_rank_lt hnil
          (table.rounds ignoreNodes (table.calcBranch rootNode))
          (fun node => branchDistance (table.bucketBranch node) (table.calcBranch rootNode))
          hsorted (branchDistance_rounds hplaced hpositive) (hitems kn hkn) hother hlt
      · intro hshort kn hkn
        rw [collectNode_eq_scan rootNode hmax] at hshort ⊢
        rw [QuotaScan.scan_of_short hnil _ hshort]
        exact hitems kn hkn

end Returned

/-- The scan of `collect_node` ends within the table, and what it returns comes nearest
bucket first, where a bucket is as far away as its branch. -/
theorem collectNode_nearestFirst (selfId : NodeId) (events : List Event) (rootNode : KNode)
    (hne : rootNode.id ≠ selfId) (maxCount : ℕ) (ignoreNodes : List KNode) :
    (afterEvents selfId events).collectNodeChecked ignoreNodes rootNode maxCount =
        some ((afterEvents selfId events).collectNode rootNode maxCount ignoreNodes) ∧
      (afterEvents selfId events).NearestFirst (afterEvents selfId events).bucketBranch
        rootNode maxCount ignoreNodes := by
  constructor
  · exact collectNodeChecked_eq _ ignoreNodes rootNode maxCount
  · apply nearestFirst_of_ne (afterEvents_refines_and_placed selfId events).2
    rwa [selfId_afterEvents]

/-- The table of `10.0.0.1` with two nodes, asked near a third one. -/
theorem collectNode_nearestFirst_three :
    (hostNode 4).id ≠ (hostNode 1).id ∧
      (afterEvents (hostNode 1).id
        [.autoUpdate (hostNode 2), .autoUpdate (hostNode 3)]).NearestFirst
        (afterEvents (hostNode 1).id
          [.autoUpdate (hostNode 2), .autoUpdate (hostNode 3)]).bucketBranch (hostNode 4) 2 [] :=
  have hne : (hostNode 4).id ≠ (hostNode 1).id := by decide +kernel
  ⟨hne, (collectNode_nearestFirst (hostNode 1).id
    [.autoUpdate (hostNode 2), .autoUpdate (hostNode 3)] (hostNode 4) hne 2 []).2⟩

/-- The own id has branch 0 but is stored in the bucket of branch 1: asked near the only node
of branch 1, the table returns itself first, one branch farther away than that node. -/
theorem collectNode_own_first :
    let self : KNode := nodeOfDigest 1 0
    let root : KNode := nodeOfDigest 2 128
    let table := afterEvents self.id [.autoUpdate root, .autoUpdate self]
    root.id ≠ self.id ∧
      ¬ (table.collectNode root 2 []).Pairwise fun first second =>
        branchDistance (table.calcBranch first) (table.calcBranch root) ≤
          branchDistance (table.calcBranch second) (table.calcBranch root) := by
  decide +kernel

end KRoutingTable

end SsP2p.Kademlia

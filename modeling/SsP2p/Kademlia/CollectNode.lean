import SsP2p.Kademlia.TableInvariant
import SsP2p.Kademlia.XorMetric
import SsP2p.Lib.QuotaScan

/-!
# What `collect_node` returns

`collect_node` starts in the bucket of the root node and walks outwards, one ring of
two buckets a round.  The buckets in the order of that walk give one list of all nodes
that may be returned, the nearest bucket first; what is returned are the first nodes of
it, and one more when the upper bucket of a ring meets the count while the lower one has
a node to give.
-/

namespace SsP2p.Kademlia

/-! ## What a bucket offers -/

def isIgnored (ignoreNodes : List KNode) (kn : KNode) : Bool :=
  ignoreNodes.any fun ignored => kn.same ignored

theorem isIgnored_eq_false_iff {ignoreNodes : List KNode} {kn : KNode} :
    isIgnored ignoreNodes kn = false ↔ ∀ ignored ∈ ignoreNodes, kn.id ≠ ignored.id := by
  rw [isIgnored, List.any_eq_false]
  simp only [KNode.same_iff, ne_eq]

namespace KBucket

/-- The nodes of a bucket that are not ignored, the most recently seen first. -/
def offered (bucket : KBucket) (ignoreNodes : List KNode) : List KNode :=
  bucket.nodes.reverse.filter fun kn => !isIgnored ignoreNodes kn

/-- The loop draws from the nodes that are not ignored. -/
theorem collect_eq (count : ℕ) (ignoreNodes ret nodes : List KNode) :
    collect count ignoreNodes ret nodes =
      QuotaScan.draw count ret (nodes.filter fun kn => !isIgnored ignoreNodes kn) := by
  induction nodes generalizing ret with
  | nil => exact (QuotaScan.draw_nil ret).symm
  | cons kn rest ih =>
      rw [collect]
      by_cases hignored : isIgnored ignoreNodes kn = true
      · have hdropped : (kn :: rest).filter (fun kn => !isIgnored ignoreNodes kn) =
            rest.filter fun kn => !isIgnored ignoreNodes kn := by
          simp [hignored]
        rw [isIgnored] at hignored
        rw [if_pos hignored, ih, hdropped]
      · have hkept : (kn :: rest).filter (fun kn => !isIgnored ignoreNodes kn) =
            kn :: rest.filter fun kn => !isIgnored ignoreNodes kn := by
          simp [hignored]
        rw [isIgnored] at hignored
        rw [if_neg hignored, hkept]
        by_cases hfull : count ≤ (ret ++ [kn]).length
        · rw [List.length_append, List.length_singleton] at hfull
          have hone : max (count - ret.length) 1 = 1 := by omega
          rw [if_pos (by rwa [List.length_append]), QuotaScan.draw, hone]
          rfl
        · rw [List.length_append, List.length_singleton] at hfull
          have hmore : max (count - ret.length) 1 =
              max (count - (ret ++ [kn]).length) 1 + 1 := by
            rw [List.length_append, List.length_singleton]
            omega
          rw [if_neg (by rwa [List.length_append]), ih, QuotaScan.draw, QuotaScan.draw, hmore,
            List.take_succ_cons, List.append_assoc]
          rfl

theorem append_getNodeBack (bucket : KBucket) (maxCount : ℕ) (ignoreNodes ret : List KNode) :
    ret ++ bucket.getNodeBack (maxCount - ret.length) ignoreNodes =
      QuotaScan.draw maxCount ret (bucket.offered ignoreNodes) := by
  rw [getNodeBack, collect_eq, QuotaScan.draw, QuotaScan.draw, List.nil_append,
    List.length_nil, Nat.sub_zero]
  rfl

theorem mem_offered {bucket : KBucket} {ignoreNodes : List KNode} {kn : KNode} :
    kn ∈ bucket.offered ignoreNodes ↔
      kn ∈ bucket.nodes ∧ ∀ ignored ∈ ignoreNodes, kn.id ≠ ignored.id := by
  rw [offered, List.mem_filter, List.mem_reverse, Bool.not_eq_true', isIgnored_eq_false_iff]

end KBucket

namespace KRoutingTable

/-! ## The walk as a scan -/

section Walk

variable (table : KRoutingTable) (ignoreNodes : List KNode)

/-- What the bucket of a branch offers. -/
def offeredAt (branch : ℕ) : List KNode :=
  if hbranch : branch ≤ 160 then
    (table.getBucketOfBranch branch hbranch).offered ignoreNodes
  else []

/-- The two buckets that are `count` branches away from the root. -/
def ring (rootBranch count : ℕ) : QuotaScan.Round KNode :=
  (if count < rootBranch then table.offeredAt ignoreNodes (rootBranch - count) else [],
    table.offeredAt ignoreNodes (rootBranch + count))

/-- The rounds of `collect_node`, the root bucket first. -/
def rounds (rootBranch : ℕ) : List (QuotaScan.Round KNode) :=
  ([], table.offeredAt ignoreNodes rootBranch) ::
    (List.range' 1 collectRounds).map (table.ring ignoreNodes rootBranch)

variable {table ignoreNodes}

theorem ring_of_flags {rootBranch count : ℕ} (hupper : rootBranch ≤ count)
    (hlower : 160 < rootBranch + count) :
    table.ring ignoreNodes rootBranch count = ([], []) := by
  rw [ring, offeredAt, offeredAt, if_neg (Nat.not_lt_of_le hupper),
    dif_neg (Nat.not_le_of_lt hlower)]

/-- Once both flags are set, the remaining rounds are empty. -/
theorem scan_of_flags {rootBranch maxCount : ℕ} (ret : List KNode) (fuel : ℕ) :
    ∀ count, rootBranch ≤ count → 160 < rootBranch + count →
      QuotaScan.scan maxCount ret
        ((List.range' count fuel).map (table.ring ignoreNodes rootBranch)) = ret := by
  induction fuel with
  | zero =>
      intro count _ _
      rfl
  | succ fuel ih =>
      intro count hupper hlower
      rw [List.range'_succ, List.map_cons, ring_of_flags hupper hlower, QuotaScan.scan,
        QuotaScan.visit, QuotaScan.draw_nil, QuotaScan.draw_nil,
        ih (count + 1) (by omega) (by omega), ite_self]

theorem collectLoop_eq_scan {rootBranch : ℕ} (hroot : rootBranch ≤ 160) (maxCount fuel : ℕ) :
    ∀ (count : ℕ) (upperFlag lowerFlag : Bool) (ret : List KNode),
      (upperFlag = true → rootBranch ≤ count) →
      (lowerFlag = true → 160 < rootBranch + count) →
      collectLoop table rootBranch maxCount ignoreNodes fuel count upperFlag lowerFlag ret =
        QuotaScan.scan maxCount ret
          ((List.range' count fuel).map (table.ring ignoreNodes rootBranch)) := by
  induction fuel with
  | zero =>
      intro count upperFlag lowerFlag ret _ _
      rfl
  | succ fuel ih =>
      intro count upperFlag lowerFlag ret hupper hlower
      by_cases hflags : (upperFlag && lowerFlag) = true
      · have hboth := Bool.and_eq_true_iff.mp hflags
        rw [scan_of_flags ret (fuel + 1) count (hupper hboth.1) (hlower hboth.2), collectLoop,
          hflags, Bool.not_true, Bool.and_false, if_neg Bool.false_ne_true]
      · rw [Bool.not_eq_true] at hflags
        rw [List.range'_succ, List.map_cons, QuotaScan.scan, collectLoop, hflags,
          Bool.not_false, Bool.and_true]
        by_cases hmore : ret.length < maxCount
        · rw [if_pos hmore, if_pos (decide_eq_true hmore)]
          dsimp only
          rw [ih]
          · congr 1
            have hguard : count + 1 ≤ rootBranch ∧ rootBranch ≤ 160 ↔ count < rootBranch :=
              and_iff_left hroot
            rw [QuotaScan.visit, ring, offeredAt, offeredAt]
            by_cases hup : count < rootBranch
            · have hupBranch : rootBranch - count ≤ 160 := (Nat.sub_le _ _).trans hroot
              rw [dif_pos (hguard.mpr hup), if_pos hup, dif_pos hupBranch,
                ← KBucket.append_getNodeBack]
              split
              · rw [← KBucket.append_getNodeBack]
              · rw [QuotaScan.draw_nil]
            · rw [dif_neg (mt hguard.mp hup), if_neg hup, QuotaScan.draw_nil]
              split
              · rw [← KBucket.append_getNodeBack]
              · rw [QuotaScan.draw_nil]
          · split
            · intro hflag
              exact (hupper hflag).trans (Nat.le_succ count)
            · intro _
              omega
          · split
            · intro hflag
              exact (hlower hflag).trans (Nat.lt_succ_self _)
            · intro _
              omega
        · rw [if_neg hmore, if_neg (by simpa using hmore)]

/-- With a count to meet, `collect_node` is the scan of its rounds. -/
theorem collectNode_eq_scan (rootNode : KNode) {maxCount : ℕ} (hpositive : 0 < maxCount) :
    table.collectNode rootNode maxCount ignoreNodes =
      QuotaScan.scan maxCount [] (table.rounds ignoreNodes (table.calcBranch rootNode)) := by
  have hroot := table.calcBranch_le rootNode
  have hfirst : (table.getBucketOfBranch (table.calcBranch rootNode) hroot).getNodeBack maxCount
      ignoreNodes =
        QuotaScan.draw maxCount [] (table.offeredAt ignoreNodes (table.calcBranch rootNode)) := by
    rw [offeredAt, dif_pos hroot, ← KBucket.append_getNodeBack]
    rfl
  rw [collectNode, collectLoop_eq_scan hroot maxCount collectRounds 1 false false _
    (fun hflag => absurd hflag Bool.false_ne_true)
    (fun hflag => absurd hflag Bool.false_ne_true), rounds, QuotaScan.scan,
    List.length_nil, if_pos hpositive, QuotaScan.visit, QuotaScan.draw_nil, hfirst]

/-- With nothing to meet, only the root bucket is asked, and it gives a node. -/
theorem collectNode_zero (rootNode : KNode) :
    table.collectNode rootNode 0 ignoreNodes =
      (table.offeredAt ignoreNodes (table.calcBranch rootNode)).take 1 := by
  have hroot := table.calcBranch_le rootNode
  rw [collectNode, collectLoop, if_neg (by simp), offeredAt, dif_pos hroot,
    KBucket.getNodeBack, KBucket.collect_eq]
  rfl

/-! ## The order of the walk -/

/-- The branches of the two buckets that are `count` away, where the table has them. -/
def ringBranches (rootBranch count : ℕ) : List ℕ :=
  (if count < rootBranch then [rootBranch - count] else []) ++
    if rootBranch + count ≤ 160 then [rootBranch + count] else []

/-- The branches in the order in which the walk visits their buckets. -/
def visitOrder (rootBranch : ℕ) : List ℕ :=
  rootBranch :: (List.range' 1 collectRounds).flatMap (ringBranches rootBranch)

theorem mem_ringBranches {rootBranch count branch : ℕ} :
    branch ∈ ringBranches rootBranch count ↔
      count < rootBranch ∧ branch = rootBranch - count ∨
        rootBranch + count ≤ 160 ∧ branch = rootBranch + count := by
  rw [ringBranches, List.mem_append]
  apply or_congr
  · split_ifs with hguard <;> simp [hguard]
  · split_ifs with hguard <;> simp [hguard]

theorem mem_visitOrder {rootBranch branch : ℕ} :
    branch ∈ visitOrder rootBranch ↔
      branch = rootBranch ∨
        ∃ count, 1 ≤ count ∧ count ≤ 161 ∧ branch ∈ ringBranches rootBranch count := by
  simp only [visitOrder, List.mem_cons, List.mem_flatMap, List.mem_range'_1, collectRounds]
  apply or_congr_right
  constructor
  · intro hmem
    obtain ⟨count, hcount, hbranch⟩ := hmem
    exact ⟨count, hcount.1, by omega, hbranch⟩
  · intro hmem
    obtain ⟨count, hone, hlast, hbranch⟩ := hmem
    exact ⟨count, ⟨hone, by omega⟩, hbranch⟩

def branchDistance (branch rootBranch : ℕ) : ℕ :=
  ((branch : ℤ) - rootBranch).natAbs

/-- No branch is visited twice, and the branches come nearest first. -/
theorem pairwise_visitOrder (rootBranch : ℕ) :
    (visitOrder rootBranch).Pairwise fun first second =>
      first ≠ second ∧
        branchDistance first rootBranch ≤ branchDistance second rootBranch := by
  rw [visitOrder, List.pairwise_cons, List.pairwise_flatMap]
  refine ⟨?_, ?_, ?_⟩
  · intro branch hbranch
    obtain ⟨count, hcount, hring⟩ := List.mem_flatMap.mp hbranch
    rw [List.mem_range'_1] at hcount
    rw [mem_ringBranches] at hring
    simp only [branchDistance]
    omega
  · intro count hcount
    rw [List.mem_range'_1] at hcount
    rw [ringBranches, List.pairwise_append]
    refine ⟨?_, ?_, ?_⟩
    · split_ifs <;> simp
    · split_ifs <;> simp
    · intro first hfirst second hsecond
      split_ifs at hfirst hsecond <;> simp at hfirst hsecond
      simp only [branchDistance]
      omega
  · refine (List.pairwise_lt_range' 1).imp ?_
    intro near far hlt first hfirst second hsecond
    rw [mem_ringBranches] at hfirst hsecond
    simp only [branchDistance]
    omega

/-- From a branch of the table every branch is visited. -/
theorem visitOrder_perm {rootBranch : ℕ} (hpositive : 1 ≤ rootBranch)
    (hroot : rootBranch ≤ 160) : (visitOrder rootBranch).Perm (List.range' 1 160) := by
  rw [List.perm_ext_iff_of_nodup ((pairwise_visitOrder rootBranch).imp And.left)
    List.nodup_range']
  intro branch
  simp only [mem_visitOrder, mem_ringBranches, List.mem_range'_1]
  constructor
  · intro hvisited
    rcases hvisited with rfl | ⟨count, hone, hlast, hring⟩
    · omega
    · omega
  · intro hbranch
    rcases Nat.lt_trichotomy branch rootBranch with hlt | heq | hgt
    · exact Or.inr ⟨rootBranch - branch, by omega, by omega, by omega⟩
    · exact Or.inl heq
    · exact Or.inr ⟨branch - rootBranch, by omega, by omega, by omega⟩

/-- From the branch of the own id the first bucket is visited twice. -/
theorem visitOrder_zero : visitOrder 0 = 0 :: List.range' 1 160 := by
  decide +kernel

variable (table ignoreNodes) in
/-- What the rounds offer, along the order of the walk. -/
theorem items_rounds (rootBranch : ℕ) :
    QuotaScan.items (table.rounds ignoreNodes rootBranch) =
      (visitOrder rootBranch).flatMap (table.offeredAt ignoreNodes) := by
  rw [rounds, QuotaScan.items_cons, List.nil_append, visitOrder, List.flatMap_cons]
  congr 1
  rw [QuotaScan.items, List.flatMap_map, List.flatMap_assoc]
  apply List.flatMap_congr
  intro count _
  have houtside : ∀ branch, 160 < branch → table.offeredAt ignoreNodes branch = [] :=
    fun branch hbranch => dif_neg (Nat.not_le_of_lt hbranch)
  simp only [ring, ringBranches, List.flatMap_append]
  congr 1
  · split_ifs
    · rw [List.flatMap_singleton]
    · rfl
  · split_ifs with hinside
    · rw [List.flatMap_singleton]
    · exact houtside _ (Nat.lt_of_not_le hinside)

/-! ## How many nodes are returned -/

variable (table ignoreNodes) in
def allOffered : List KNode :=
  table.allNodes.filter fun kn => !isIgnored ignoreNodes kn

variable (table ignoreNodes) in
/-- The buckets of all branches together offer every node that is not ignored. -/
theorem offeredAt_perm :
    ((List.range' 1 160).flatMap (table.offeredAt ignoreNodes)).Perm
      (table.allOffered ignoreNodes) := by
  have hbranches : List.range' 1 160 =
      (List.finRange kBucketCount).map fun index => 1 + index.val := by
    rw [List.range'_eq_map_range, ← List.map_coe_finRange_eq_range, List.map_map]
    rfl
  rw [hbranches, List.flatMap_map, allOffered, allNodes, toList_buckets, List.map_map,
    ← List.flatMap_def, List.filter_flatMap]
  apply List.Perm.flatMap_left
  intro index _
  have hinside : 1 + index.val ≤ 160 := Nat.add_comm 1 index.val ▸ index.isLt
  have hindex : branchIndex (1 + index.val) hinside = index :=
    Fin.ext (Nat.add_sub_cancel_left 1 index.val)
  rw [offeredAt, dif_pos hinside, getBucketOfBranch, hindex, KBucket.offered]
  exact (List.reverse_perm _).filter _

variable (table ignoreNodes) in
/-- What the rounds offer in all, from a branch of the table and from the own id. -/
theorem length_items_rounds {rootBranch : ℕ} (hroot : rootBranch ≤ 160) :
    (QuotaScan.items (table.rounds ignoreNodes rootBranch)).length =
      (table.allOffered ignoreNodes).length +
        if rootBranch = 0 then (table.offeredAt ignoreNodes 0).length else 0 := by
  rw [items_rounds, ← (offeredAt_perm table ignoreNodes).length_eq]
  split_ifs with hown
  · rw [hown, visitOrder_zero, List.flatMap_cons, List.length_append, Nat.add_comm]
  · exact ((visitOrder_perm (Nat.pos_of_ne_zero hown) hroot).flatMap_right _).length_eq

variable (table ignoreNodes) in
/-- What is offered less than `count` branches away from the root. -/
def nearer (rootBranch count : ℕ) : List KNode :=
  QuotaScan.items ((table.rounds ignoreNodes rootBranch).take count)

variable (table ignoreNodes) in
/-- The walk stops in time, and counts no node twice. -/
structure StopsInTime (rootBranch maxCount : ℕ) : Prop where
  /-- Where no node is wanted, the root bucket has none to give. -/
  root : maxCount = 0 → table.offeredAt ignoreNodes rootBranch = []
  /-- Where the upper bucket of a ring meets the count, the lower one is empty. -/
  rings : ∀ count, 1 ≤ count →
    (table.nearer ignoreNodes rootBranch count).length < maxCount →
    maxCount ≤ (table.nearer ignoreNodes rootBranch count).length +
      (table.ring ignoreNodes rootBranch count).1.length →
    (table.ring ignoreNodes rootBranch count).2 = []
  /-- The bucket of the own id is also the one of branch 1. -/
  own : rootBranch = 0 →
    table.offeredAt ignoreNodes 0 = [] ∨ maxCount ≤ (table.allOffered ignoreNodes).length

theorem getElem?_rounds {rootBranch count : ℕ} (hpositive : 1 ≤ count)
    (hlast : count ≤ collectRounds) :
    (table.rounds ignoreNodes rootBranch)[count]? =
      some (table.ring ignoreNodes rootBranch count) := by
  obtain ⟨position, rfl⟩ := Nat.exists_eq_add_of_le' hpositive
  rw [rounds, List.getElem?_cons_succ, List.getElem?_map, List.getElem?_range' hlast,
    Option.map_some, Nat.one_mul, Nat.add_comm]

/-- The scan has no surplus exactly when no ring is left too late. -/
theorem surplus_rounds_eq_nil_iff {rootBranch maxCount : ℕ} :
    QuotaScan.surplus maxCount 0 (table.rounds ignoreNodes rootBranch) = [] ↔
      ∀ count, 1 ≤ count →
        (table.nearer ignoreNodes rootBranch count).length < maxCount →
        maxCount ≤ (table.nearer ignoreNodes rootBranch count).length +
          (table.ring ignoreNodes rootBranch count).1.length →
        (table.ring ignoreNodes rootBranch count).2 = [] := by
  rw [QuotaScan.surplus_eq_nil_iff]
  simp only [Nat.zero_add]
  constructor
  · intro hnone count hpositive hlt hfirst
    by_cases hlast : count ≤ collectRounds
    · exact hnone count _ (getElem?_rounds hpositive hlast) hlt hfirst
    · have houtside : ¬ rootBranch + count ≤ 160 := by
        rw [collectRounds] at hlast
        omega
      exact dif_neg houtside
  · intro hnone position round hround hlt hfirst
    cases position with
    | zero =>
        obtain rfl := Option.some.inj hround
        exact absurd (hlt.trans_le hfirst) (lt_irrefl _)
    | succ position =>
        have hbound := (List.getElem?_eq_some_iff.mp hround).1
        have hlast : position < collectRounds := by
          simpa [rounds] using hbound
        rw [getElem?_rounds (Nat.le_add_left 1 position) hlast] at hround
        obtain rfl := Option.some.inj hround
        exact hnone (position + 1) (Nat.le_add_left 1 position) hlt hfirst

end Walk

/-- `collect_node` returns as many nodes as it is asked for and has, exactly when its walk
stops in time. -/
theorem length_collectNode_iff (table : KRoutingTable) (rootNode : KNode) (maxCount : ℕ)
    (ignoreNodes : List KNode) :
    (table.collectNode rootNode maxCount ignoreNodes).length =
        min maxCount (table.allOffered ignoreNodes).length ↔
      table.StopsInTime ignoreNodes (table.calcBranch rootNode) maxCount := by
  cases Nat.eq_zero_or_pos maxCount with
  | inl hzero =>
      subst hzero
      rw [collectNode_zero, Nat.zero_min, List.length_eq_zero_iff, List.take_eq_nil_iff]
      constructor
      · intro hnone
        exact ⟨fun _ => hnone.resolve_left Nat.one_ne_zero,
          fun _ _ hlt => absurd hlt (Nat.not_lt_zero _), fun _ => Or.inr (Nat.zero_le _)⟩
      · intro hstops
        exact Or.inr (hstops.root rfl)
  | inr hpositive =>
      have hlength := length_items_rounds table ignoreNodes (table.calcBranch_le rootNode)
      rw [collectNode_eq_scan rootNode hpositive, QuotaScan.scan_eq (Nat.zero_le _),
        List.length_append, List.length_take, List.nil_append, hlength, List.length_nil]
      constructor
      · intro hexact
        have hnone : QuotaScan.surplus maxCount 0
            (table.rounds ignoreNodes (table.calcBranch rootNode)) = [] := by
          by_contra hsurplus
          have hpast := QuotaScan.lt_length_of_surplus hsurplus
          have hsome := List.length_pos_iff.mpr hsurplus
          omega
        rw [hnone, List.length_nil, Nat.add_zero] at hexact
        refine ⟨fun hzero => absurd hzero hpositive.ne', surplus_rounds_eq_nil_iff.mp hnone,
          fun hown => ?_⟩
        rw [if_pos hown] at hexact
        rw [← List.length_eq_zero_iff]
        omega
      · intro hstops
        rw [surplus_rounds_eq_nil_iff.mpr hstops.rings, List.length_nil, Nat.add_zero]
        split_ifs with hown
        · rcases hstops.own hown with hempty | henough
          · rw [hempty, List.length_nil, Nat.add_zero]
          · omega
        · rw [Nat.add_zero]

/-- `10.0.0.7` lies one branch above `10.0.0.5` and `10.0.0.2` one below: asked for one
node near `10.0.0.5`, the table of `10.0.0.1` returns both. -/
theorem length_collectNode_two_for_one :
    let table := afterEvents (hostNode 1).id [.autoUpdate (hostNode 2),
      .autoUpdate (nodeOfDigest 7 0xbe2b080e15b32dc9600eced2f5e88e14f381b5d5)]
    let root := nodeOfDigest 5 0x623e0b2d0be106590aad1802c37b72ad18fda5ad
    (table.collectNode root 1 []).length = 2 ∧
      min 1 (table.allOffered []).length = 1 := by
  decide +kernel

end KRoutingTable

end SsP2p.Kademlia

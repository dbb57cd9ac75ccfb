import SsP2p.Kademlia.CollectNode
import SsP2p.Lib.Fallible
import SsP2p.Net.Peer

/-!
# The multicast manager

`multicast_manager` picks peers of stored nodes for a multicast and remembers which ones it
picked.  The buckets are tried in a random order, and `std::transform` writes into vectors
that do not grow.  The function that makes a peer of an endpoint is held by reference, and
may be gone when it is called.
-/

namespace SsP2p.Net

open Kademlia

/-- The ends of a call whose behaviour is undefined. -/
inductive MulticastFault where
  /-- `std::transform` writes past the end of its target. -/
  | pastEnd
  /-- A member of a null `peer::ref`. -/
  | nullPeer
  /-- A call of a function that was destroyed. -/
  | deadFunction
  deriving DecidableEq, Repr

/-- An order in which `std::shuffle` may leave the bucket indexes. -/
structure Shuffle where
  indexes : List (Fin kBucketCount)
  perm : indexes.Perm (List.finRange kBucketCount)

/-- The order in which `std::shuffle` finds them. -/
def Shuffle.unchanged : Shuffle := ⟨List.finRange kBucketCount, .rfl⟩

def bucketEndIndex : Fin kBucketCount := ⟨159, by decide⟩

/-- `multicast_manager`: whether the function behind `_ep_to_peer_func` still lives, and the
peers of the context. -/
structure MulticastManager where
  functionLives : Bool
  pickedPeers : List Peer

namespace MulticastManager

/-- The constructor, for a function that is kept somewhere. -/
def make : MulticastManager := ⟨true, []⟩

/-- `node_controller::get_multicast_manager`: the result of `std::bind` is turned into a
temporary, which is gone when the manager is returned. -/
def getMulticastManager : MulticastManager := ⟨false, []⟩

def clearContext (manager : MulticastManager) : MulticastManager :=
  { manager with pickedPeers := [] }

def updateContext (manager : MulticastManager) (pickedPeer : Peer) : MulticastManager :=
  { manager with pickedPeers := manager.pickedPeers ++ [pickedPeer] }

/-- `std::transform` to the front of a vector, which keeps its size. -/
def transformInto {Value : Type*} (values target : List Value) :
    Except MulticastFault (List Value) :=
  if values.length ≤ target.length then .ok (values ++ target.drop values.length)
  else .error .pastEnd

section Calls

variable {platform : Platform} (pool : MessagePool platform) (table : KRoutingTable)

variable (platform) in
/-- `convert_peers_to_k_nodes`: the target is a new vector. -/
def convertPeersToKNodes (peers : List Peer) : Except MulticastFault (List KNode) :=
  transformInto (peers.map fun peer => KNode.ofEndpoint platform peer.ep) []

/-- `_ep_to_peer_func`, which is `node_controller::get_peer_ref`. -/
def epToPeerFunc (manager : MulticastManager) (ep : Endpoint) : Except MulticastFault Peer :=
  if manager.functionLives then .ok (.ofPool pool ep) else .error .deadFunction

/-- The loop of `get_random`: the indexes are passed to `get_bucket` as branches. -/
def pickFrom (manager : MulticastManager) :
    List (Fin kBucketCount) → Except MulticastFault (Option Peer × MulticastManager)
  | [] => return (none, manager)
  | index :: indexes => do
      let targetBucket := table.getBucketOfBranch index.val index.isLt.le
      if 0 < targetBucket.getNodeCount then
        let ignoreKNodes ← convertPeersToKNodes platform manager.pickedPeers
        match targetBucket.getNodeFront 1 ignoreKNodes with
        | kn :: _ =>
            let ret ← manager.epToPeerFunc pool kn.ep
            return (some ret, manager.updateContext ret)
        | [] => pickFrom manager indexes
      else pickFrom manager indexes

def getRandom (shuffle : Shuffle) (manager : MulticastManager) :
    Except MulticastFault (Option Peer × MulticastManager) :=
  pickFrom pool table manager shuffle.indexes

/-- `get_multicast_target`; `n - 1` is a `std::size_t`. -/
def getMulticastTarget (shuffle : Shuffle) (n : ℕ) (manager : MulticastManager) :
    Except MulticastFault (List (Option Peer) × MulticastManager) := do
  let (retPeer, manager) ← getRandom pool table shuffle manager
  if n > 1 then return ([retPeer], manager)
  else
    let ignoreKNodes ← convertPeersToKNodes platform manager.pickedPeers
    match retPeer with
    | none => throw .nullPeer
    | some peer =>
        let kNodes := table.collectNode (.ofEndpoint platform peer.ep)
          ((n + 18446744073709551615) % 18446744073709551616) ignoreKNodes
        let peers ← kNodes.mapM fun kn => manager.epToPeerFunc pool kn.ep
        let ret ← transformInto (peers.map some) [retPeer]
        return (ret, manager)

variable {pool table}

/-- Nothing is converted when nothing was picked, and nothing else ever is. -/
theorem convertPeersToKNodes_eq (peers : List Peer) :
    convertPeersToKNodes platform peers =
      if peers = [] then .ok [] else .error .pastEnd := by
  rw [convertPeersToKNodes, transformInto]
  cases peers with
  | nil => rfl
  | cons peer peers => rfl

theorem getNodeFront_one (bucket : KBucket) :
    bucket.getNodeFront 1 [] = bucket.nodes.take 1 := by
  rw [KBucket.getNodeFront]
  cases bucket.nodes with
  | nil => rfl
  | cons kn rest => simp [KBucket.collect]

/-! ## One pick -/

/-- The bucket that an index leads to when it is taken for a branch. -/
def triedBucket (table : KRoutingTable) (index : Fin kBucketCount) : KBucket :=
  table.getBucketOfBranch index.val index.isLt.le

theorem getNodeCount_pos_iff (bucket : KBucket) :
    0 < bucket.getNodeCount ↔ bucket.nodes ≠ [] :=
  List.length_pos_iff

theorem pickFrom_cons_of_nil (manager : MulticastManager) {index : Fin kBucketCount}
    (hnodes : (triedBucket table index).nodes = []) (indexes : List (Fin kBucketCount)) :
    pickFrom pool table manager (index :: indexes) = pickFrom pool table manager indexes := by
  rw [pickFrom]
  rw [if_neg]
  rw [getNodeCount_pos_iff, not_not]
  exact hnodes

variable (pool) in
/-- What comes of the first node that the loop finds. -/
def pickOf (manager : MulticastManager) (kn : KNode) :
    Except MulticastFault (Option Peer × MulticastManager) :=
  if manager.pickedPeers ≠ [] then .error .pastEnd
  else if manager.functionLives then
    .ok (some (.ofPool pool kn.ep), manager.updateContext (.ofPool pool kn.ep))
  else .error .deadFunction

/-- A manager that can pick a peer. -/
def CanPick (manager : MulticastManager) : Prop :=
  manager.pickedPeers = [] ∧ manager.functionLives = true

theorem pickOf_of_canPick {manager : MulticastManager} (hcan : manager.CanPick) (kn : KNode) :
    pickOf pool manager kn =
      .ok (some (.ofPool pool kn.ep), manager.updateContext (.ofPool pool kn.ep)) := by
  rw [pickOf, if_neg (not_not_intro hcan.1), if_pos hcan.2]

variable (pool) in
theorem pickOf_of_not_canPick {manager : MulticastManager} (hcannot : ¬ manager.CanPick)
    (kn : KNode) : ∃ fault, pickOf pool manager kn = .error fault := by
  rw [pickOf]
  split_ifs with hpicked hlives
  · exact ⟨_, rfl⟩
  · exact absurd ⟨not_not.mp hpicked, hlives⟩ hcannot
  · exact ⟨_, rfl⟩

/-- The first bucket with a node decides, whatever was picked before. -/
theorem pickFrom_cons_of_cons (manager : MulticastManager) {index : Fin kBucketCount}
    {kn : KNode} {rest : List KNode} (hnodes : (triedBucket table index).nodes = kn :: rest)
    (indexes : List (Fin kBucketCount)) :
    pickFrom pool table manager (index :: indexes) = pickOf pool manager kn := by
  have hcount : 0 < (triedBucket table index).getNodeCount := by
    rw [getNodeCount_pos_iff, hnodes]
    exact List.cons_ne_nil kn rest
  have hfront : (triedBucket table index).getNodeFront 1 [] = [kn] := by
    rw [getNodeFront_one, hnodes]
    rfl
  rw [triedBucket] at hcount hfront
  rw [pickFrom]
  rw [if_pos hcount, convertPeersToKNodes_eq, pickOf, ite_not]
  split_ifs with hpicked hlives
  · simp only [bind, Except.bind, hfront, epToPeerFunc, if_pos hlives]
    rfl
  · simp only [bind, Except.bind, hfront, epToPeerFunc, if_neg hlives]
  · rfl

variable (pool table) in
/-- The loop finds no node, or ends with the first one. -/
theorem pickFrom_cases (manager : MulticastManager) (indexes : List (Fin kBucketCount)) :
    ((∀ index ∈ indexes, (triedBucket table index).nodes = []) ∧
        pickFrom pool table manager indexes = .ok (none, manager)) ∨
      ∃ index ∈ indexes, ∃ kn ∈ (triedBucket table index).nodes,
        pickFrom pool table manager indexes = pickOf pool manager kn := by
  induction indexes with
  | nil => exact Or.inl ⟨fun _ hindex => absurd hindex List.not_mem_nil, rfl⟩
  | cons index indexes ih =>
      cases hnodes : (triedBucket table index).nodes with
      | nil =>
          rw [pickFrom_cons_of_nil manager hnodes]
          apply ih.imp
          · intro hempty
            exact ⟨List.forall_mem_cons.mpr ⟨hnodes, hempty.1⟩, hempty.2⟩
          · intro hpick
            obtain ⟨other, hother, hfound⟩ := hpick
            exact ⟨other, List.mem_cons_of_mem index hother, hfound⟩
      | cons kn rest =>
          refine Or.inr ⟨index, List.mem_cons_self, kn, ?_, ?_⟩
          · rw [hnodes]
            exact List.mem_cons_self
          · exact pickFrom_cons_of_cons manager hnodes indexes

/-- A bucket other than the last one holds a node. -/
def HoldsTried (table : KRoutingTable) : Prop :=
  ∃ index : Fin kBucketCount, index.val + 1 < kBucketCount ∧ (table.bucketAt index).nodes ≠ []

/-- An index leads to a bucket before the last one. -/
theorem holdsTried_of_mem {index : Fin kBucketCount} {kn : KNode}
    (hkn : kn ∈ (triedBucket table index).nodes) : HoldsTried table := by
  have hcount : kBucketCount = 160 := rfl
  refine ⟨KRoutingTable.branchIndex index.val index.isLt.le, ?_, List.ne_nil_of_mem hkn⟩
  have hlt := index.isLt
  rw [KRoutingTable.branchIndex]
  dsimp only
  omega

variable (pool table) in
/-- What a pick comes to: all buckets but the last one are tried, whatever the order. -/
theorem getRandom_cases (shuffle : Shuffle) (manager : MulticastManager) :
    (¬ HoldsTried table ∧ getRandom pool table shuffle manager = .ok (none, manager)) ∨
      HoldsTried table ∧ ∃ index, ∃ kn ∈ (table.bucketAt index).nodes,
        getRandom pool table shuffle manager = pickOf pool manager kn := by
  cases pickFrom_cases pool table manager shuffle.indexes with
  | inl hnone =>
      refine Or.inl ⟨?_, hnone.2⟩
      intro htried
      obtain ⟨index, hlast, hne⟩ := htried
      refine hne (hnone.1 ⟨index.val + 1, hlast⟩ ?_)
      rw [shuffle.perm.mem_iff]
      exact List.mem_finRange _
  | inr hpick =>
      obtain ⟨index, -, kn, hkn, heq⟩ := hpick
      exact Or.inr ⟨holdsTried_of_mem hkn, _, kn, hkn, heq⟩

variable (platform) in
/-- Whether a peer of this node is among the peers; nodes compare by their ids. -/
def isPicked (peers : List Peer) (kn : KNode) : Bool :=
  isIgnored (peers.map fun peer => KNode.ofEndpoint platform peer.ep) kn

/-- What `get_random` is there for. -/
def PicksFresh (pool : MessagePool platform) (table : KRoutingTable) (shuffle : Shuffle)
    (manager : MulticastManager) : Prop :=
  ∃ ret next, getRandom pool table shuffle manager = .ok (ret, next) ∧
    (ret = none ↔ ∀ kn ∈ table.allNodes, isPicked platform manager.pickedPeers kn) ∧
    ∀ peer, ret = some peer →
      (∃ kn ∈ table.allNodes, isPicked platform manager.pickedPeers kn = false ∧
        peer = .ofPool pool kn.ep) ∧
      next.pickedPeers = manager.pickedPeers ++ [peer]

/-- `get_random` picks a fresh peer exactly when no peer was picked before a node of the buckets
that it tries and the function that makes a peer of it still lives, and every node of the bucket
that it does not try was picked before a call that finds no other node. -/
theorem picksFresh_iff (pool : MessagePool platform) (table : KRoutingTable) (shuffle : Shuffle)
    (manager : MulticastManager) :
    PicksFresh pool table shuffle manager ↔
      (HoldsTried table → manager.CanPick) ∧
        (¬ HoldsTried table → ∀ kn ∈ (table.bucketAt bucketEndIndex).nodes,
          isPicked platform manager.pickedPeers kn) := by
  cases getRandom_cases pool table shuffle manager with
  | inl hnone =>
      obtain ⟨hnotTried, heq⟩ := hnone
      have hlast : (∀ kn ∈ table.allNodes, isPicked platform manager.pickedPeers kn) ↔
          ∀ kn ∈ (table.bucketAt bucketEndIndex).nodes,
            isPicked platform manager.pickedPeers kn := by
        constructor
        · intro hall kn hkn
          exact hall kn (KRoutingTable.mem_allNodes.mpr ⟨_, hkn⟩)
        · intro hall kn hkn
          obtain ⟨index, hindex⟩ := KRoutingTable.mem_allNodes.mp hkn
          have hbound : ¬ index.val + 1 < kBucketCount := fun hlt =>
            hnotTried ⟨index, hlt, List.ne_nil_of_mem hindex⟩
          have hval : index = bucketEndIndex := by
            have hcount : kBucketCount = 160 := rfl
            have hlt := index.isLt
            apply Fin.ext
            show index.val = 159
            omega
          rw [hval] at hindex
          exact hall kn hindex
      constructor
      · intro hpicks
        obtain ⟨ret, next, hret, hnone, -⟩ := hpicks
        obtain ⟨rfl, rfl⟩ := Prod.mk.inj (Except.ok.inj (heq.symm.trans hret))
        exact ⟨fun htried => absurd htried hnotTried, fun _ => hlast.mp (hnone.mp rfl)⟩
      · intro hcondition
        refine ⟨none, manager, heq, ?_, ?_⟩
        · exact iff_of_true rfl (hlast.mpr (hcondition.2 hnotTried))
        · intro peer hpeer
          cases hpeer
  | inr hpick =>
      obtain ⟨htried, index, kn, hkn, heq⟩ := hpick
      have hstored := KRoutingTable.mem_allNodes.mpr ⟨index, hkn⟩
      constructor
      · intro hpicks
        obtain ⟨ret, next, hret, -⟩ := hpicks
        refine ⟨fun _ => ?_, fun hnotTried => absurd htried hnotTried⟩
        by_contra hcannot
        obtain ⟨fault, hfault⟩ := pickOf_of_not_canPick pool hcannot kn
        rw [heq, hfault] at hret
        cases hret
      · intro hcondition
        have hcan := hcondition.1 htried
        have hnotPicked : ∀ node, isPicked platform manager.pickedPeers node = false := by
          intro node
          rw [hcan.1]
          rfl
        rw [pickOf_of_canPick hcan] at heq
        refine ⟨_, _, heq, ?_, ?_⟩
        · apply iff_of_false (Option.some_ne_none _)
          intro hall
          exact Bool.false_ne_true ((hnotPicked kn).symm.trans (hall kn hstored))
        · intro peer hpeer
          obtain rfl := Option.some.inj hpeer
          exact ⟨⟨kn, hstored, hnotPicked kn, rfl⟩, rfl⟩

end Calls

/-- The node `10.0.0.6:8100`, in the last bucket of the table of `10.0.0.1:8100`. -/
def lastBucketNode : KNode :=
  nodeOfDigest 6 0x1d562c7131d04e42b6c379d7daa99b9797477380

def emptyPool : MessagePool (hostPlatform []) := .empty

/-- A manager of the node picks no peer where only the last bucket holds a node, writes past
the end of a vector at a node of another bucket once a peer was picked, and calls a function
that is gone when none was. -/
theorem getRandom_lastBucket_and_again :
    (getRandom emptyPool (.afterEvents (hostNode 1).id [.autoUpdate lastBucketNode]) .unchanged
        getMulticastManager).map (fun result => result.1.isNone) = .ok true ∧
      (getRandom emptyPool
        (.afterEvents (hostNode 1).id [.autoUpdate (hostNode 2), .autoUpdate (hostNode 3)])
        .unchanged (getMulticastManager.updateContext (.ofPool emptyPool (nodeAt 2)))).map
          (fun result => result.1.isNone) = .error .pastEnd ∧
      (getRandom emptyPool (.afterEvents (hostNode 1).id [.autoUpdate (hostNode 2)]) .unchanged
        getMulticastManager).map (fun result => result.1.isNone) = .error .deadFunction := by
  decide +kernel

/-! ## Sequences of calls -/

section Calls

variable {platform : Platform}

/-- A call of `get_multicast_target` for at least one peer. -/
structure TargetCall where
  n : ℕ
  positive : 1 ≤ n
  shuffle : Shuffle

/-- The stored nodes that no peer was returned of. -/
def freshNodes (platform : Platform) (table : KRoutingTable) (returned : List Peer) :
    List KNode :=
  table.allNodes.filter fun kn => !isPicked platform returned kn

/-- Every call returns as many peers as it can of the stored nodes that no earlier call
returned a peer of, and no two of the same node. -/
def SelectsFresh (pool : MessagePool platform) (table : KRoutingTable) :
    MulticastManager → List Peer → List TargetCall → Prop
  | _, _, [] => True
  | manager, returned, call :: calls =>
      ∃ (nodes : List KNode) (next : MulticastManager),
        getMulticastTarget pool table call.shuffle call.n manager =
          .ok (nodes.map fun kn => some (.ofPool pool kn.ep), next) ∧
        nodes.length = min call.n (freshNodes platform table returned).length ∧
        (nodes.map KNode.id).Nodup ∧
        (∀ kn ∈ nodes, kn ∈ freshNodes platform table returned) ∧
        SelectsFresh pool table next (returned ++ nodes.map fun kn => .ofPool pool kn.ep) calls

variable {pool : MessagePool platform} {table : KRoutingTable}

/-- With a limit of one, the call reads a null peer or writes past the end of a vector. -/
theorem getMulticastTarget_one (shuffle : Shuffle) (manager : MulticastManager) :
    ∃ fault, getMulticastTarget pool table shuffle 1 manager = .error fault := by
  rw [getMulticastTarget]
  cases getRandom_cases pool table shuffle manager with
  | inl hnone =>
      rw [hnone.2, Fallible.ok_bind]
      dsimp only
      rw [if_neg (lt_irrefl 1), convertPeersToKNodes_eq]
      split
      · exact ⟨_, rfl⟩
      · exact ⟨_, rfl⟩
  | inr hpick =>
      obtain ⟨-, index, kn, -, heq⟩ := hpick
      rw [heq]
      by_cases hcan : manager.CanPick
      · rw [pickOf_of_canPick hcan, Fallible.ok_bind]
        dsimp only
        rw [if_neg (lt_irrefl 1), convertPeersToKNodes_eq, updateContext, if_neg]
        · exact ⟨_, rfl⟩
        · exact List.append_ne_nil_of_right_ne_nil _ (List.cons_ne_nil _ _)
      · obtain ⟨fault, hfault⟩ := pickOf_of_not_canPick pool hcan kn
        rw [hfault]
        exact ⟨fault, rfl⟩

/-- With a higher limit, the call returns the peer of one pick. -/
theorem getMulticastTarget_of_lt (shuffle : Shuffle) {n : ℕ} (hmany : 1 < n)
    (manager : MulticastManager) :
    getMulticastTarget pool table shuffle n manager =
      (getRandom pool table shuffle manager).map fun picked => ([picked.1], picked.2) := by
  rw [getMulticastTarget]
  cases getRandom pool table shuffle manager with
  | error fault => rfl
  | ok picked =>
      rw [Fallible.ok_bind]
      dsimp only
      rw [if_pos hmany]
      rfl

variable (pool table) in
/-- A call that ends well returns at most one entry. -/
theorem getMulticastTarget_cases (shuffle : Shuffle) {n : ℕ} (hpositive : 1 ≤ n)
    (manager : MulticastManager) :
    ((n = 1 ∨ ¬ manager.CanPick) ∧
        ∃ fault, getMulticastTarget pool table shuffle n manager = .error fault) ∨
      (1 < n ∧ ¬ HoldsTried table ∧
        getMulticastTarget pool table shuffle n manager = .ok ([none], manager)) ∨
      (1 < n ∧ HoldsTried table ∧ manager.CanPick ∧ ∃ kn ∈ table.allNodes,
        getMulticastTarget pool table shuffle n manager =
          .ok ([some (.ofPool pool kn.ep)], manager.updateContext (.ofPool pool kn.ep))) := by
  cases hpositive.eq_or_lt with
  | inl hone =>
      rw [← hone]
      exact Or.inl ⟨Or.inl rfl, getMulticastTarget_one shuffle manager⟩
  | inr hmany =>
      rw [getMulticastTarget_of_lt shuffle hmany]
      cases getRandom_cases pool table shuffle manager with
      | inl hnone =>
          rw [hnone.2]
          exact Or.inr (Or.inl ⟨hmany, hnone.1, rfl⟩)
      | inr hpick =>
          obtain ⟨htried, index, kn, hkn, heq⟩ := hpick
          rw [heq]
          by_cases hcan : manager.CanPick
          · rw [pickOf_of_canPick hcan]
            have hstored := KRoutingTable.mem_allNodes.mpr ⟨index, hkn⟩
            exact Or.inr (Or.inr ⟨hmany, htried, hcan, kn, hstored, rfl⟩)
          · obtain ⟨fault, hfault⟩ := pickOf_of_not_canPick pool hcan kn
            rw [hfault]
            exact Or.inl ⟨Or.inr hcan, fault, rfl⟩

/-- Once a peer was picked, no further call does what it is there for. -/
theorem not_selectsFresh_of_picked {manager : MulticastManager} (returned : List Peer)
    (hpicked : manager.pickedPeers ≠ []) (call : TargetCall) (calls : List TargetCall) :
    ¬ SelectsFresh pool table manager returned (call :: calls) := by
  intro hselects
  obtain ⟨nodes, next, hcall, -⟩ := hselects
  rcases getMulticastTarget_cases pool table call.shuffle call.positive manager with
    ⟨-, fault, herror⟩ | ⟨-, -, hnull⟩ | ⟨-, -, hcan, -⟩
  · cases herror.symm.trans hcall
  · have hnodes := congrArg Prod.fst (Except.ok.inj (hnull.symm.trans hcall))
    cases nodes with
    | nil => cases hnodes
    | cons kn rest => cases hnodes
  · exact hpicked hcan.1

/-- A sequence of calls after `clear_context` selects fresh peers exactly when it is empty or a
single call for several peers of a table with a single node, outside of the last bucket, and the
function that makes a peer of the node still lives. -/
theorem selectsFresh_iff (pool : MessagePool platform) (table : KRoutingTable)
    (manager : MulticastManager) (calls : List TargetCall) :
    SelectsFresh pool table manager.clearContext [] calls ↔
      calls = [] ∨
        ∃ call, calls = [call] ∧ 1 < call.n ∧ HoldsTried table ∧ table.getNodeCount = 1 ∧
          manager.functionLives = true := by
  have hfreshNodes : freshNodes platform table [] = table.allNodes := by
    rw [freshNodes, List.filter_eq_self]
    intro kn _
    rfl
  cases calls with
  | nil => exact iff_of_true trivial (Or.inl rfl)
  | cons call calls =>
      rw [SelectsFresh, hfreshNodes, ← KRoutingTable.getNodeCount_eq]
      constructor
      · intro hselects
        obtain ⟨nodes, next, hcall, hcount, -, -, hrest⟩ := hselects
        rcases getMulticastTarget_cases pool table call.shuffle call.positive
            manager.clearContext with
          ⟨-, fault, herror⟩ | ⟨-, -, hnull⟩ | ⟨hmany, htried, hcan, kn, -, hpick⟩
        · cases herror.symm.trans hcall
        · have hnodes := congrArg Prod.fst (Except.ok.inj (hnull.symm.trans hcall))
          cases nodes with
          | nil => cases hnodes
          | cons kn rest => cases hnodes
        · obtain ⟨hnodes, hnext⟩ := Prod.mk.inj (Except.ok.inj (hpick.symm.trans hcall))
          have hone := congrArg List.length hnodes
          rw [List.length_singleton, List.length_map, hcount] at hone
          cases calls with
          | nil => exact Or.inr ⟨call, rfl, hmany, htried, by omega, hcan.2⟩
          | cons second calls =>
              have hpicked : next.pickedPeers ≠ [] := by
                rw [← hnext, updateContext]
                exact List.append_ne_nil_of_right_ne_nil _ (List.cons_ne_nil _ _)
              exact absurd hrest (not_selectsFresh_of_picked _ hpicked second calls)
      · intro hcondition
        obtain ⟨single, heq, hmany, htried, hcount, hlives⟩ :=
          hcondition.resolve_left (List.cons_ne_nil call calls)
        obtain ⟨rfl, rfl⟩ := List.cons.inj heq
        rcases getMulticastTarget_cases pool table call.shuffle call.positive
            manager.clearContext with
          ⟨hnot, -⟩ | ⟨-, hnotTried, -⟩ | ⟨-, -, -, kn, hstored, hpick⟩
        · exact absurd hnot (not_or.mpr ⟨hmany.ne', not_not_intro ⟨rfl, hlives⟩⟩)
        · exact absurd htried hnotTried
        · refine ⟨[kn], _, hpick, ?_, List.nodup_singleton _, ?_, trivial⟩
          · rw [hcount, Nat.min_eq_right call.positive]
            rfl
          · intro node hnode
            rw [List.mem_singleton.mp hnode]
            exact hstored

end Calls

/-- A manager of the node calls a function that is gone.  With a function that lives and two
stored nodes, the first call returns one peer where two are asked for, the second one writes past
the end of a vector, and so does a call for one peer. -/
theorem getMulticastTarget_two :
    let table := KRoutingTable.afterEvents (hostNode 1).id
      [.autoUpdate (hostNode 2), .autoUpdate (hostNode 3)]
    let first := getMulticastTarget emptyPool table .unchanged 2 make
    table.getNodeCount = 2 ∧
      (getMulticastTarget emptyPool table .unchanged 2 getMulticastManager).map
        (fun result => result.1.length) = .error .deadFunction ∧
      first.map (fun result => result.1.length) = .ok 1 ∧
      (first.bind fun result => getMulticastTarget emptyPool table .unchanged 2 result.2).map
        (fun result => result.1.length) = .error .pastEnd ∧
      (getMulticastTarget emptyPool table .unchanged 1 make).map
        (fun result => result.1.length) = .error .pastEnd := by
  decide +kernel

end MulticastManager

end SsP2p.Net

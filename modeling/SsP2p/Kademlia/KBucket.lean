import SsP2p.Kademlia.NodeId
import SsP2p.Lib.RecencyList

/-!
# Buckets

`k_bucket` with its operations, and the recency list that a bucket stands for:
at most `defaultK` nodes with distinct ids, the least recently seen in front.
-/

namespace SsP2p.Kademlia

abbrev defaultK : ℕ := 4

structure KBucket where
  nodes : List KNode
  deriving DecidableEq

inductive UpdateState where
  | addedBack
  | movedBack
  | notFound
  | overflow
  | error
  deriving DecidableEq, Repr

namespace KBucket

def empty : KBucket := ⟨[]⟩

def isExist (bucket : KBucket) (kn : KNode) : Bool :=
  bucket.nodes.any fun other => kn.same other

def isFull (bucket : KBucket) : Bool :=
  decide (defaultK ≤ bucket.nodes.length)

def getNodeCount (bucket : KBucket) : ℕ :=
  bucket.nodes.length

def getNodes (bucket : KBucket) : List KNode :=
  bucket.nodes

def addBack (bucket : KBucket) (kn : KNode) : KBucket :=
  if bucket.isFull then bucket
  else if bucket.isExist kn then bucket
  else ⟨bucket.nodes ++ [kn]⟩

/-- The stored copy is the one that is pushed back, not the argument. -/
def moveBack (bucket : KBucket) (kn : KNode) : KBucket :=
  match bucket.nodes.find? fun other => kn.same other with
  | none => bucket
  | some target =>
      ⟨bucket.nodes.eraseP (fun other => kn.same other) ++ [target]⟩

def deleteNode (bucket : KBucket) (kn : KNode) : KBucket :=
  ⟨bucket.nodes.eraseP fun other => kn.same other⟩

def autoUpdate (bucket : KBucket) (kn : KNode) : UpdateState × KBucket :=
  if bucket.isExist kn then (.movedBack, bucket.moveBack kn)
  else if bucket.isFull then (.overflow, bucket)
  else (.addedBack, bucket.addBack kn)

/-- The loop that `get_node_front` and `get_node_back` share: the limit is
tested only after a node was pushed. -/
def collect (count : ℕ) (ignoreNodes : List KNode) :
    List KNode → List KNode → List KNode
  | ret, [] => ret
  | ret, kn :: rest =>
      if ignoreNodes.any fun ignored => kn.same ignored then
        collect count ignoreNodes ret rest
      else if count ≤ (ret ++ [kn]).length then ret ++ [kn]
      else collect count ignoreNodes (ret ++ [kn]) rest

def getNodeFront (bucket : KBucket) (count : ℕ) (ignoreNodes : List KNode) :
    List KNode :=
  collect count ignoreNodes [] bucket.nodes

def getNodeBack (bucket : KBucket) (count : ℕ) (ignoreNodes : List KNode) :
    List KNode :=
  collect count ignoreNodes [] bucket.nodes.reverse

theorem mem_collect {count : ℕ} {ignoreNodes ret nodes : List KNode} {kn : KNode}
    (hkn : kn ∈ collect count ignoreNodes ret nodes) :
    kn ∈ ret ∨ kn ∈ nodes ∧ ∀ ignored ∈ ignoreNodes, kn.id ≠ ignored.id := by
  induction nodes generalizing ret with
  | nil => exact Or.inl hkn
  | cons head tail ih =>
      have htail : ∀ ret', kn ∈ collect count ignoreNodes ret' tail →
          kn ∈ ret' ∨ kn ∈ head :: tail ∧ ∀ ignored ∈ ignoreNodes, kn.id ≠ ignored.id :=
        fun _ hmem => (ih hmem).imp_right (And.imp_left (List.mem_cons_of_mem head))
      rw [collect] at hkn
      by_cases hignored : (ignoreNodes.any fun ignored => head.same ignored) = true
      · rw [if_pos hignored] at hkn
        exact htail ret hkn
      · rw [if_neg hignored] at hkn
        have hpushed : kn ∈ ret ++ [head] →
            kn ∈ ret ∨ kn ∈ head :: tail ∧
              ∀ ignored ∈ ignoreNodes, kn.id ≠ ignored.id := by
          intro hmem
          apply (List.mem_append.mp hmem).imp_right
          intro hhead
          obtain rfl := List.mem_singleton.mp hhead
          simp only [List.any_eq_true, KNode.same_iff, not_exists, not_and] at hignored
          exact ⟨List.mem_cons_self, hignored⟩
        by_cases hfull : count ≤ (ret ++ [head]).length
        · rw [if_pos hfull] at hkn
          exact hpushed hkn
        · rw [if_neg hfull] at hkn
          exact (htail _ hkn).elim hpushed Or.inr

/-- What a bucket gives away is stored there and not ignored. -/
theorem mem_getNodeBack {bucket : KBucket} {count : ℕ} {ignoreNodes : List KNode}
    {kn : KNode} (hkn : kn ∈ bucket.getNodeBack count ignoreNodes) :
    kn ∈ bucket.nodes ∧ ∀ ignored ∈ ignoreNodes, kn.id ≠ ignored.id := by
  have hcollected := (mem_collect hkn).resolve_left List.not_mem_nil
  rwa [List.mem_reverse] at hcollected

/-! ## The recency list of a bucket -/

/-- The abstract bucket. -/
abbrev Recent := RecencyList KNode.id defaultK

/-- The bucket holds the entries of the recency list, in its order. -/
def Refines (bucket : KBucket) (recent : Recent) : Prop :=
  bucket.nodes = recent.entries

theorem same_eq_decide (kn : KNode) :
    (fun other : KNode => kn.same other) = fun other => decide (other.id = kn.id) := by
  funext other
  rw [Bool.eq_iff_iff, KNode.same_iff, decide_eq_true_eq]
  exact eq_comm

theorem isExist_iff (bucket : KBucket) (kn : KNode) :
    bucket.isExist kn = true ↔ kn.id ∈ bucket.nodes.map KNode.id := by
  simp only [isExist, List.any_eq_true, KNode.same_iff, List.mem_map]
  constructor
  · intro hexist
    obtain ⟨other, hother, heq⟩ := hexist
    exact ⟨other, hother, heq.symm⟩
  · intro hmem
    obtain ⟨other, hother, heq⟩ := hmem
    exact ⟨other, hother, heq.symm⟩

theorem isFull_iff (bucket : KBucket) :
    bucket.isFull = true ↔ defaultK ≤ bucket.nodes.length := by
  simp [isFull]

theorem nodes_moveBack (bucket : KBucket) (kn : KNode) :
    (bucket.moveBack kn).nodes = Recency.touch KNode.id kn.id bucket.nodes := by
  unfold moveBack Recency.touch
  rw [same_eq_decide]
  cases bucket.nodes.find? fun other => decide (other.id = kn.id) with
  | none => rfl
  | some target => rfl

theorem nodes_deleteNode (bucket : KBucket) (kn : KNode) :
    (bucket.deleteNode kn).nodes = Recency.forget KNode.id kn.id bucket.nodes := by
  unfold deleteNode Recency.forget
  rw [same_eq_decide]

/-- The three outcomes of `auto_update` with the bucket each leaves. -/
theorem autoUpdate_cases (bucket : KBucket) (kn : KNode) :
    (bucket.isExist kn = true ∧
        bucket.autoUpdate kn = (.movedBack, bucket.moveBack kn)) ∨
      (bucket.isExist kn = false ∧ bucket.isFull = true ∧
        bucket.autoUpdate kn = (.overflow, bucket)) ∨
      (bucket.isExist kn = false ∧ bucket.isFull = false ∧
        bucket.autoUpdate kn = (.addedBack, ⟨bucket.nodes ++ [kn]⟩)) := by
  cases hexist : bucket.isExist kn with
  | true => exact Or.inl ⟨rfl, by simp [autoUpdate, hexist]⟩
  | false =>
      cases hfull : bucket.isFull with
      | true => exact Or.inr (Or.inl ⟨rfl, rfl, by simp [autoUpdate, hexist, hfull]⟩)
      | false =>
          exact Or.inr (Or.inr ⟨rfl, rfl, by
            simp [autoUpdate, addBack, hexist, hfull]⟩)

theorem nodes_autoUpdate (bucket : KBucket) (kn : KNode) :
    (bucket.autoUpdate kn).2.nodes =
      Recency.learn KNode.id defaultK kn bucket.nodes := by
  unfold Recency.learn
  rcases autoUpdate_cases bucket kn with
    ⟨hexist, hupdate⟩ | ⟨hexist, hfull, hupdate⟩ | ⟨hexist, hfull, hupdate⟩
  · rw [hupdate, if_pos ((isExist_iff bucket kn).mp hexist)]
    exact nodes_moveBack bucket kn
  · rw [hupdate, if_neg (by simp [← isExist_iff, hexist]),
      if_pos ((isFull_iff bucket).mp hfull)]
  · rw [hupdate, if_neg (by simp [← isExist_iff, hexist]),
      if_neg (by simp [← isFull_iff, hfull])]

theorem empty_refines : empty.Refines RecencyList.empty := rfl

theorem autoUpdate_refines {bucket : KBucket} {recent : Recent}
    (hrefines : bucket.Refines recent) (kn : KNode) :
    (bucket.autoUpdate kn).2.Refines (recent.learn kn) := by
  rw [Refines, nodes_autoUpdate, hrefines]
  rfl

theorem moveBack_refines {bucket : KBucket} {recent : Recent}
    (hrefines : bucket.Refines recent) (kn : KNode) :
    (bucket.moveBack kn).Refines (recent.touch kn.id) := by
  rw [Refines, nodes_moveBack, hrefines]
  rfl

theorem deleteNode_refines {bucket : KBucket} {recent : Recent}
    (hrefines : bucket.Refines recent) (kn : KNode) :
    (bucket.deleteNode kn).Refines (recent.forget kn.id) := by
  rw [Refines, nodes_deleteNode, hrefines]
  rfl

end KBucket

end SsP2p.Kademlia

import SsP2p.Kademlia.CollectNode
import SsP2p.Lib.RecencyHistory

/-!
# Buckets and their history

What `auto_update`, `move_back` and `delete_node` did to a bucket, in the order of the calls,
decides what it holds: the nodes that were added and not deleted since, ordered by when each
was last added or moved back.  `get_node_front` and `get_node_back` give away nodes from the
two ends of that order.
-/

namespace SsP2p.Kademlia

namespace KBucket

open KRoutingTable (Event bucketStep)

/-- What a call does: `auto_update` tells by its result, and `move_back` finds its node or
not. -/
def effect (bucket : KBucket) : Event → Recency.Effect KNode NodeId
  | .autoUpdate kn =>
      match (bucket.autoUpdate kn).1 with
      | .addedBack => .admitted kn
      | .movedBack => .seen kn.id
      | .notFound | .overflow | .error => .nothing
  | .moveBack kn => if bucket.isExist kn then .seen kn.id else .nothing
  | .deleteNode kn => .dropped kn.id

def effectsFrom (bucket : KBucket) : List Event → List (Recency.Effect KNode NodeId)
  | [] => []
  | event :: events => bucket.effect event :: effectsFrom (bucketStep bucket event) events

def history (events : List Event) : List (Recency.Effect KNode NodeId) :=
  empty.effectsFrom events

def afterEvents (events : List Event) : KBucket :=
  events.foldl bucketStep empty

/-- The nodes that are not ignored, the least recently seen first. -/
def available (bucket : KBucket) (ignoreNodes : List KNode) : List KNode :=
  bucket.nodes.filter fun kn => !isIgnored ignoreNodes kn

/-- A bucket is a list of the least recently seen nodes, and takes up whoever it does not store
while it is not full. -/
structure LeastRecentlySeen (events : List Event) : Prop where
  reflects : Recency.Reflects KNode.id (history events) (afterEvents events).nodes
  admits : ∀ kn, (afterEvents events).effect (.autoUpdate kn) =
    if kn.id ∈ (afterEvents events).nodes.map KNode.id then .seen kn.id
    else if (afterEvents events).nodes.length < defaultK then .admitted kn else .nothing
  front : ∀ (count : ℕ) (ignoreNodes : List KNode), 1 ≤ count →
    (afterEvents events).getNodeFront count ignoreNodes =
      ((afterEvents events).available ignoreNodes).take count
  back : ∀ (count : ℕ) (ignoreNodes : List KNode), 1 ≤ count →
    (afterEvents events).getNodeBack count ignoreNodes =
      ((afterEvents events).available ignoreNodes).reverse.take count

/-- The nodes change as the effect says. -/
theorem nodes_bucketStep (bucket : KBucket) (event : Event) :
    (bucketStep bucket event).nodes =
      (bucket.effect event).apply KNode.id bucket.nodes := by
  cases event with
  | autoUpdate kn =>
      rw [bucketStep, effect]
      rcases autoUpdate_cases bucket kn with
        ⟨-, hupdate⟩ | ⟨-, -, hupdate⟩ | ⟨-, -, hupdate⟩
      · rw [hupdate]
        exact nodes_moveBack bucket kn
      · rw [hupdate]
        rfl
      · rw [hupdate]
        rfl
  | moveBack kn =>
      rw [bucketStep, nodes_moveBack, effect]
      split_ifs with hexist
      · rfl
      · rw [isExist_iff] at hexist
        exact Recency.touch_of_notMem hexist
  | deleteNode kn => exact nodes_deleteNode bucket kn

theorem effect_autoUpdate (bucket : KBucket) (kn : KNode) :
    bucket.effect (.autoUpdate kn) =
      if kn.id ∈ bucket.nodes.map KNode.id then .seen kn.id
      else if bucket.nodes.length < defaultK then .admitted kn else .nothing := by
  rw [effect]
  rcases autoUpdate_cases bucket kn with
    ⟨hexist, hupdate⟩ | ⟨hexist, hfull, hupdate⟩ | ⟨hexist, hfull, hupdate⟩
  · rw [hupdate, if_pos ((isExist_iff bucket kn).mp hexist)]
  · have hmany : ¬ bucket.nodes.length < defaultK := not_lt.mpr ((isFull_iff bucket).mp hfull)
    rw [hupdate, if_neg (by simp [← isExist_iff, hexist]), if_neg hmany]
  · have hfew : bucket.nodes.length < defaultK :=
      not_le.mp (by simp [← isFull_iff, hfull])
    rw [hupdate, if_neg (by simp [← isExist_iff, hexist]), if_pos hfew]

/-- A node is added only where its id is not stored. -/
theorem fits_effect (bucket : KBucket) (event : Event) :
    (bucket.effect event).Fits KNode.id bucket.nodes := by
  cases event with
  | autoUpdate kn =>
      rw [effect]
      rcases autoUpdate_cases bucket kn with
        ⟨-, hupdate⟩ | ⟨-, -, hupdate⟩ | ⟨hexist, -, hupdate⟩
      · rw [hupdate]
        exact trivial
      · rw [hupdate]
        exact trivial
      · rw [hupdate]
        have hnew : ¬ bucket.isExist kn = true := Bool.eq_false_iff.mp hexist
        rwa [isExist_iff] at hnew
  | moveBack kn =>
      rw [effect]
      split_ifs
      · exact trivial
      · exact trivial
  | deleteNode kn => exact trivial

/-- A run of calls keeps the bucket as its log decides. -/
theorem reflects_foldl {log : List (Recency.Effect KNode NodeId)} {bucket : KBucket}
    (hreflects : Recency.Reflects KNode.id log bucket.nodes) (events : List Event) :
    Recency.Reflects KNode.id (log ++ bucket.effectsFrom events)
      (events.foldl bucketStep bucket).nodes := by
  induction events generalizing log bucket with
  | nil =>
      rw [effectsFrom, List.append_nil]
      exact hreflects
  | cons event events ih =>
      have hnext : Recency.Reflects KNode.id (log ++ [bucket.effect event])
          (bucketStep bucket event).nodes := by
        rw [nodes_bucketStep]
        exact hreflects.append (fits_effect bucket event)
      rw [effectsFrom, List.foldl_cons, List.append_cons]
      exact ih hnext

/-- With a count to meet, the loop gives the first ones of the nodes that are not ignored. -/
theorem collect_of_pos {count : ℕ} (hpositive : 1 ≤ count) (ignoreNodes nodes : List KNode) :
    collect count ignoreNodes [] nodes =
      (nodes.filter fun kn => !isIgnored ignoreNodes kn).take count := by
  rw [collect_eq, QuotaScan.draw, List.nil_append, List.length_nil, Nat.sub_zero,
    max_eq_left hpositive]

/-- A bucket holds the nodes that were added and not deleted since, the least recently seen
in front, and gives them away from the front or from the back. -/
theorem leastRecentlySeen (events : List Event) : LeastRecentlySeen events where
  reflects := reflects_foldl Recency.reflects_nil events
  admits kn := effect_autoUpdate _ kn
  front count ignoreNodes hpositive := collect_of_pos hpositive ignoreNodes _
  back count ignoreNodes hpositive := by
    rw [getNodeBack, collect_of_pos hpositive, List.filter_reverse]
    rfl

/-- `10.0.0.2` is seen again after `10.0.0.4`, and stands behind it. -/
example : (afterEvents [.autoUpdate (hostNode 2), .autoUpdate (hostNode 4),
    .moveBack (hostNode 2)]).nodes = [hostNode 4, hostNode 2] := by
  decide +kernel

end KBucket

end SsP2p.Kademlia

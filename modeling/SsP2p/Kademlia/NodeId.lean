import SsP2p.Core.Utils
import Mathlib.Data.List.FinRange

/-!
# Node ids and nodes

A node id is the SHA-1 digest of the binary form of an endpoint.  Nodes compare
by id alone, and the distance of two ids is the number of positions before the
first one where they differ.
-/

namespace SsP2p.Kademlia

/-- `K_NODE_ID_LENGTH`, in bytes. -/
abbrev kNodeIdLength : ℕ := 160 / 8

abbrev NodeId := Vector UInt8 kNodeIdLength

/-- `calc_node_xor_distance`: the loop counts positions until it breaks at the
first set bit, bytes from the front and within a byte from the lowest bit. -/
def calcNodeXorDistance (nid₁ nid₂ : NodeId) : ℕ :=
  let xorDistance := Vector.zipWith (· ^^^ ·) nid₁ nid₂
  ((List.finRange (kNodeIdLength * 8)).takeWhile fun i =>
    (xorDistance[i.val / 8] >>> UInt8.ofNat (i.val % 8)) &&& 1 != 1).length

theorem calcNodeXorDistance_le (nid₁ nid₂ : NodeId) :
    calcNodeXorDistance nid₁ nid₂ ≤ kNodeIdLength * 8 := by
  unfold calcNodeXorDistance
  exact (List.takeWhile_sublist _).length_le.trans (by simp)

def calcNodeId (platform : Platform) (ep : Endpoint) : NodeId :=
  platform.sha1 (endpointToBinary platform ep)

structure KNode where
  ep : Endpoint
  id : NodeId
  deriving DecidableEq

namespace KNode

def ofEndpoint (platform : Platform) (ep : Endpoint) : KNode :=
  ⟨ep, calcNodeId platform ep⟩

/-- `k_node::operator==`: the endpoints are not compared. -/
def same (left right : KNode) : Bool :=
  left.id == right.id

@[simp]
theorem same_iff (left right : KNode) :
    left.same right = true ↔ left.id = right.id := by
  simp [same]

end KNode

end SsP2p.Kademlia

import SsP2p.Core.IoContext
import SsP2p.Core.Observer
import SsP2p.Kademlia.DirectRoutingTableController
import SsP2p.Kademlia.KMessage
import SsP2p.Lib.KeyedList

/-!
# Kademlia observers

The `ping` and `find_node` observers and their storage.  A `ping` is answered by
the pong handler or, when its timer ran out first, by the timeout handler; a
`find_node` calls its handler for every endpoint of a response.
-/

namespace SsP2p.Kademlia

abbrev defaultPingResponseTimeout : ℕ := 5

inductive Handler where
  /-- `k_bucket::move_back` on one bucket and one node. -/
  | moveBack (index : Fin kBucketCount) (kn : KNode)
  /-- `k_bucket::delete_node` on one bucket and one node. -/
  | deleteNode (index : Fin kBucketCount) (kn : KNode)
  /-- `direct_routing_table_controller::auto_update`. -/
  | autoUpdate
  /-- `rpc_manager::null_handler`, or a handler outside the node. -/
  | null
  /-- The closure of `get_remote_nodes`, which pings the endpoint. -/
  | pingFound
  deriving DecidableEq

structure Ping where
  base : BaseObserver
  destEp : Endpoint
  pongHandler : Handler
  timeoutHandler : Handler
  isPongArrived : Bool
  deriving DecidableEq

namespace Ping

def id (obs : Ping) : Uuid := obs.base.id

def make (id : Uuid) (now : ℕ) (ep : Endpoint)
    (pongHandler timeoutHandler : Handler) : Ping :=
  ⟨.make id now, ep, pongHandler, timeoutHandler, false⟩

def init (obs : Ping) (io : IoContext) : Ping × IoContext :=
  ({ obs with
      base := obs.base.extendExpireAt io.now (defaultPingResponseTimeout + 1) },
    io.asyncWait (defaultPingResponseTimeout - 1) (.pingTimeout obs.id))

def answered (obs : Ping) : Ping :=
  { obs with isPongArrived := true, base := obs.base.destructSelf }

/-- What `timeout` leaves of the observer when no pong has arrived. -/
def timedOut (obs : Ping) : Ping :=
  { obs with base := obs.base.destructSelf }

def incomeMessage (obs : Ping) (io : IoContext) : IoContext :=
  (io.post (.pongHandler obs.id)).cancel (· = .pingTimeout obs.id)

@[simp]
theorem id_make (id : Uuid) (now : ℕ) (ep : Endpoint)
    (pongHandler timeoutHandler : Handler) :
    (make id now ep pongHandler timeoutHandler).id = id := rfl

@[simp]
theorem id_answered (obs : Ping) : obs.answered.id = obs.id := rfl

@[simp]
theorem id_timedOut (obs : Ping) : obs.timedOut.id = obs.id := rfl

@[simp]
theorem id_init (obs : Ping) (io : IoContext) : (obs.init io).1.id = obs.id := rfl

end Ping

structure FindNode where
  base : BaseObserver
  responseHandler : Handler
  deriving DecidableEq

namespace FindNode

def id (obs : FindNode) : Uuid := obs.base.id

def make (id : Uuid) (now : ℕ) (responseHandler : Handler) : FindNode :=
  ⟨.make id now, responseHandler⟩

def answered (obs : FindNode) : FindNode :=
  { obs with base := obs.base.destructSelf }

/-- What `income_message` hands to the event loop for the endpoints it found. -/
def postAll (obs : FindNode) (io : IoContext) (findedEps : List Endpoint) :
    IoContext :=
  findedEps.foldl (fun io ep => io.post (.responseHandler obs.id ep)) io

@[simp]
theorem id_make (id : Uuid) (now : ℕ) (responseHandler : Handler) :
    (make id now responseHandler).id = id := rfl

@[simp]
theorem id_answered (obs : FindNode) : obs.answered.id = obs.id := rfl

theorem postAll_eq (obs : FindNode) (io : IoContext) (findedEps : List Endpoint) :
    obs.postAll io findedEps =
      { io with ready := io.ready ++ findedEps.map (.responseHandler obs.id) } := by
  unfold postAll
  induction findedEps generalizing io with
  | nil => simp
  | cons ep findedEps ih =>
      rw [List.foldl_cons, ih]
      simp [IoContext.post]

theorem pending_postAll (obs : FindNode) (io : IoContext)
    (findedEps : List Endpoint) :
    (obs.postAll io findedEps).pending =
      (findedEps.map (.responseHandler obs.id) : List Callback) + io.pending := by
  rw [postAll_eq]
  simp only [IoContext.pending, ← Multiset.coe_add]
  rw [add_right_comm, add_comm]

end FindNode

structure KObserverStrage where
  pings : KeyedList Ping.id
  findNodes : KeyedList FindNode.id

namespace KObserverStrage

def empty : KObserverStrage := ⟨.empty, .empty⟩

def addPing (strage : KObserverStrage) (obs : Ping) : KObserverStrage :=
  { strage with pings := strage.pings.insert obs }

def addFindNode (strage : KObserverStrage) (obs : FindNode) : KObserverStrage :=
  { strage with findNodes := strage.findNodes.insert obs }

def deleteExpires (strage : KObserverStrage) (now : ℕ) : KObserverStrage where
  pings := strage.pings.filter fun obs => !obs.base.isExpired now
  findNodes := strage.findNodes.filter fun obs => !obs.base.isExpired now

def answerPing (strage : KObserverStrage) (id : Uuid) : KObserverStrage :=
  { strage with pings := strage.pings.modify id Ping.answered Ping.id_answered }

def timeOutPing (strage : KObserverStrage) (id : Uuid) : KObserverStrage :=
  { strage with pings := strage.pings.modify id Ping.timedOut Ping.id_timedOut }

def answerFindNode (strage : KObserverStrage) (id : Uuid) : KObserverStrage :=
  { strage with
    findNodes := strage.findNodes.modify id FindNode.answered FindNode.id_answered }

end KObserverStrage

end SsP2p.Kademlia

import SsP2p.Core.Message
import Mathlib.Algebra.Order.Group.Multiset
import Mathlib.Data.List.Perm.Basic

/-!
# The event loop

The `io_context` of a node with what the handlers hand to it: posted handlers,
pending timers and datagrams to send.  A callback that captures an observer by a
raw pointer names that observer by its id.
-/

namespace SsP2p

/-- The handlers that the node gives to the event loop. -/
inductive Callback where
  /-- The wait of `ping::init` on `ping::timeout`. -/
  | pingTimeout (id : Uuid)
  /-- Posted by `ping::income_message`. -/
  | pongHandler (id : Uuid)
  /-- Posted by `ping::timeout`. -/
  | timeoutHandler (id : Uuid)
  /-- Posted by `find_node::income_message`, one for each endpoint. -/
  | responseHandler (id : Uuid) (ep : Endpoint)
  /-- `observer_strage::refresh_tick` of the Kademlia storage. -/
  | refreshTick
  /-- The wait of `binding_request::init` on `binding_request::on_timeout`. -/
  | bindingTimeout (id : Uuid)
  /-- Posted by `binding_request::async_call_sr_handler`. -/
  | srHandler (id : Uuid) (ep : Option Endpoint)
  /-- `signaling_request::on_traversal_done`, when its message was sent. -/
  | traversalDone (id : Uuid)
  deriving DecidableEq

structure Outgoing where
  dest : Endpoint
  msg : Message

/-- `io_context`, with the time and everything sent so far. -/
structure IoContext where
  now : ℕ
  ready : List Callback
  waits : List (ℕ × Callback)
  sent : List Outgoing

namespace IoContext

def start (now : ℕ) : IoContext := ⟨now, [], [], []⟩

def post (io : IoContext) (callback : Callback) : IoContext :=
  { io with ready := io.ready ++ [callback] }

def asyncWait (io : IoContext) (delay : ℕ) (callback : Callback) : IoContext :=
  { io with waits := io.waits ++ [(io.now + delay, callback)] }

/-- `cancel`, or the destruction, of the timers whose callback is selected:
their waits become ready with `operation_aborted`. -/
def cancel (io : IoContext) (selects : Callback → Bool) : IoContext :=
  { io with
    ready := io.ready ++ (io.waits.map Prod.snd).filter selects
    waits := io.waits.filter fun wait => !selects wait.2 }

/-- `async_send`: the application id is added to the part. -/
def asyncSend (io : IoContext) (dest : Endpoint) (param : String)
    (payload : Json) : IoContext :=
  { io with sent := io.sent ++ [⟨dest, Message.ofPart param payload⟩] }

def advance (io : IoContext) (seconds : ℕ) : IoContext :=
  { io with now := io.now + seconds }

/-- The timer behind the wait at this position runs out. -/
def expire (io : IoContext) (position : ℕ) : Option IoContext :=
  match io.waits[position]? with
  | none => none
  | some wait =>
      if wait.1 ≤ io.now then
        some { io with
          ready := io.ready ++ [wait.2]
          waits := io.waits.eraseIdx position }
      else none

def take (io : IoContext) (position : ℕ) : Option (Callback × IoContext) :=
  match io.ready[position]? with
  | none => none
  | some callback => some (callback, { io with ready := io.ready.eraseIdx position })

/-- Cancelling makes waits ready and nothing else. -/
theorem filterMap_cancel {Value : Type*} {io : IoContext} {kind : Callback → Option Value}
    (hwaits : ∀ wait ∈ io.waits, kind wait.2 = none) (selects : Callback → Bool) :
    (io.cancel selects).ready.filterMap kind = io.ready.filterMap kind := by
  have hnone : ((io.waits.map Prod.snd).filter selects).filterMap kind = [] := by
    rw [List.filterMap_eq_nil_iff]
    intro callback hcallback
    obtain ⟨wait, hwait, rfl⟩ := List.mem_map.mp (List.mem_of_mem_filter hcallback)
    exact hwaits wait hwait
  rw [cancel, List.filterMap_append, hnone, List.append_nil]

theorem mem_waits_cancel {io : IoContext} {selects : Callback → Bool}
    {wait : ℕ × Callback} (hwait : wait ∈ (io.cancel selects).waits) : wait ∈ io.waits :=
  List.mem_of_mem_filter hwait

/-- Cancelling changes nothing exactly when nothing is cancelled. -/
theorem cancel_eq_self_iff {io : IoContext} {selects : Callback → Bool} :
    io.cancel selects = io ↔ ∀ wait ∈ io.waits, selects wait.2 = false := by
  constructor
  · intro heq
    have hwaits := congrArg IoContext.waits heq
    simpa [cancel] using hwaits
  · intro hnone
    have hready : (io.waits.map Prod.snd).filter selects = [] := by
      rw [List.filter_eq_nil_iff]
      intro callback hcallback
      obtain ⟨wait, hwait, rfl⟩ := List.mem_map.mp hcallback
      simp [hnone wait hwait]
    have hwaits : (io.waits.filter fun wait => !selects wait.2) = io.waits := by
      simpa using hnone
    rw [cancel, hready, hwaits, List.append_nil]

/-! ## What was handed over -/

/-- The number of callbacks that are ready and of datagrams that were sent. -/
def handedOver (io : IoContext) : ℕ := io.ready.length + io.sent.length

@[simp]
theorem handedOver_post (io : IoContext) (callback : Callback) :
    (io.post callback).handedOver = io.handedOver + 1 := by
  simp only [handedOver, post, List.length_append, List.length_singleton]
  omega

@[simp]
theorem handedOver_asyncSend (io : IoContext) (dest : Endpoint) (param : String)
    (payload : Json) : (io.asyncSend dest param payload).handedOver = io.handedOver + 1 := by
  simp [handedOver, asyncSend, Nat.add_assoc]

theorem handedOver_le_cancel (io : IoContext) (selects : Callback → Bool) :
    io.handedOver ≤ (io.cancel selects).handedOver := by
  simp only [handedOver, cancel, List.length_append]
  omega

/-! ## What is still to be run -/

/-- Every callback that is ready or pending, without its order. -/
def pending (io : IoContext) : Multiset Callback :=
  (io.ready : Multiset Callback) + (io.waits.map Prod.snd : List Callback)

@[simp]
theorem pending_start (now : ℕ) : (start now).pending = 0 := rfl

@[simp]
theorem pending_post (io : IoContext) (callback : Callback) :
    (io.post callback).pending = callback ::ₘ io.pending := by
  simp only [pending, post, ← Multiset.coe_add, Multiset.coe_singleton]
  rw [add_right_comm, add_comm, Multiset.singleton_add]

@[simp]
theorem pending_asyncWait (io : IoContext) (delay : ℕ) (callback : Callback) :
    (io.asyncWait delay callback).pending = callback ::ₘ io.pending := by
  simp only [pending, asyncWait, List.map_append, List.map_cons, List.map_nil,
    ← Multiset.coe_add, Multiset.coe_singleton]
  rw [← add_assoc, add_comm, Multiset.singleton_add]

@[simp]
theorem pending_cancel (io : IoContext) (selects : Callback → Bool) :
    (io.cancel selects).pending = io.pending := by
  have hwaits : (((io.waits.map Prod.snd).filter selects : List Callback) :
      Multiset Callback) + ((io.waits.filter fun wait => !selects wait.2).map
        Prod.snd : List Callback) = (io.waits.map Prod.snd : List Callback) := by
    rw [Multiset.coe_add, Multiset.coe_eq_coe]
    have hrest : (io.waits.filter fun wait => !selects wait.2).map Prod.snd =
        (io.waits.map Prod.snd).filter fun callback => !selects callback := by
      rw [List.filter_map]
      rfl
    rw [hrest]
    exact List.filter_append_perm selects _
  simp only [pending, cancel, ← Multiset.coe_add]
  rw [add_assoc, hwaits]

@[simp]
theorem pending_asyncSend (io : IoContext) (dest : Endpoint) (param : String)
    (payload : Json) : (io.asyncSend dest param payload).pending = io.pending := rfl

@[simp]
theorem pending_advance (io : IoContext) (seconds : ℕ) :
    (io.advance seconds).pending = io.pending := rfl

private theorem coe_eraseIdx {Item : Type*} {list : List Item} {position : ℕ}
    {item : Item} (hposition : list[position]? = some item) :
    (list : Multiset Item) = item ::ₘ (list.eraseIdx position : Multiset Item) := by
  obtain ⟨hlt, rfl⟩ := List.getElem?_eq_some_iff.mp hposition
  rw [Multiset.cons_coe, Multiset.coe_eq_coe]
  exact (List.getElem_cons_eraseIdx_perm hlt).symm

/-- The timer that ran out is one of the waits. -/
theorem expire_eq_some {io next : IoContext} {position : ℕ}
    (hexpire : io.expire position = some next) :
    ∃ wait, io.waits[position]? = some wait ∧ next = { io with
      ready := io.ready ++ [wait.2]
      waits := io.waits.eraseIdx position } := by
  unfold expire at hexpire
  cases hwait : io.waits[position]? with
  | none => simp [hwait] at hexpire
  | some wait =>
      rw [hwait] at hexpire
      dsimp only at hexpire
      split_ifs at hexpire
      exact ⟨wait, rfl, (Option.some.inj hexpire).symm⟩

theorem pending_expire {io next : IoContext} {position : ℕ}
    (hexpire : io.expire position = some next) : next.pending = io.pending := by
  obtain ⟨wait, hwait, rfl⟩ := expire_eq_some hexpire
  have hwaits := congrArg (Multiset.map Prod.snd) (coe_eraseIdx hwait)
  rw [Multiset.map_cons, Multiset.map_coe, Multiset.map_coe] at hwaits
  simp only [pending, ← Multiset.coe_add, hwaits, Multiset.coe_singleton]
  rw [add_assoc, Multiset.singleton_add]

theorem take_eq_some {io next : IoContext} {position : ℕ} {callback : Callback}
    (htake : io.take position = some (callback, next)) :
    io.ready[position]? = some callback ∧
      next = { io with ready := io.ready.eraseIdx position } := by
  unfold take at htake
  cases hready : io.ready[position]? with
  | none => simp [hready] at htake
  | some found =>
      rw [hready] at htake
      obtain ⟨rfl, rfl⟩ := Prod.mk.inj (Option.some.inj htake)
      exact ⟨rfl, rfl⟩

theorem now_take {io next : IoContext} {position : ℕ} {callback : Callback}
    (htake : io.take position = some (callback, next)) : next.now = io.now := by
  rw [(take_eq_some htake).2]

/-- The callback at the front of the queue is taken. -/
theorem ready_take_zero {io next : IoContext} {callback : Callback}
    (htake : io.take 0 = some (callback, next)) : io.ready = callback :: next.ready := by
  obtain ⟨hready, rfl⟩ := take_eq_some htake
  cases hqueue : io.ready with
  | nil => simp [hqueue] at hready
  | cons head tail =>
      rw [hqueue] at hready
      rw [← Option.some.inj hready]
      rfl

theorem pending_take {io next : IoContext} {position : ℕ} {callback : Callback}
    (htake : io.take position = some (callback, next)) :
    io.pending = callback ::ₘ next.pending := by
  obtain ⟨hready, rfl⟩ := take_eq_some htake
  simp only [pending, coe_eraseIdx hready, Multiset.cons_add]

end IoContext

end SsP2p

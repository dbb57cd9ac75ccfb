import SsP2p.Core.HostPlatform
import SsP2p.Lib.Runs
import SsP2p.Net.Peer

/-!
# Delivery of stored messages to peers

Messages are stored in the pool, peers are made, and peers receive, in any order.
The stored messages of an endpoint should reach the peers of that endpoint once
and in order.  Every peer receives from its own copy of the buffer, as it was when
the peer was made: it does not see what is stored later, nor what other peers have
received.
-/

namespace SsP2p.Net

/-- A peer with the number of messages that its endpoint had stored when it was
made, and the number that it has returned since. -/
structure Handle where
  peer : Peer
  available : ℕ
  taken : ℕ

/-- A call of `receive` on a peer of `ep`, with the messages of `ep` that were stored
and not yet returned when it was made. -/
structure Receipt where
  ep : Endpoint
  waiting : List ReceivedMessage
  result : ReceiveResult

/-- The pool of a node and the peers that were made, with all messages stored and
all calls of `receive` so far. -/
structure PeerDelivery (platform : Platform) where
  pool : MessagePool platform
  handles : List Handle
  now : ℕ
  stored : List (Endpoint × ReceivedMessage)
  receipts : List Receipt

namespace PeerDelivery

inductive Event where
  | advance (seconds : ℕ)
  | store (id : Uuid) (usage : UInt64) (msg : Message) (ep : Endpoint)
  /-- `get_peer` or `get_peer_ref`. -/
  | getPeer (ep : Endpoint)
  /-- `receive` on the peer at this position. -/
  | receive (position : ℕ) (timeout : ℤ)

variable {platform : Platform}

def start (now : ℕ) : PeerDelivery platform := ⟨.empty, [], now, [], []⟩

def storedFor (delivery : PeerDelivery platform) (ep : Endpoint) :
    List ReceivedMessage :=
  (delivery.stored.filter fun entry => entry.1 = ep).map Prod.snd

def returnedFor (delivery : PeerDelivery platform) (ep : Endpoint) :
    List ReceivedMessage :=
  delivery.receipts.filterMap fun receipt =>
    if receipt.ep = ep then receipt.result.received else none

/-- The messages of an endpoint that are stored and not yet returned. -/
def waitingFor (delivery : PeerDelivery platform) (ep : Endpoint) :
    List ReceivedMessage :=
  (delivery.storedFor ep).filter fun received =>
    decide (received.id ∉ (delivery.returnedFor ep).map ReceivedMessage.id)

def receive (delivery : PeerDelivery platform) (position : ℕ) (handle : Handle)
    (timeout : ℤ) : PeerDelivery platform :=
  let outcome := handle.peer.receive timeout
  let taken := handle.taken + (if outcome.1.received.isSome then 1 else 0)
  { delivery with
    handles := delivery.handles.set position ⟨outcome.2, handle.available, taken⟩
    receipts := delivery.receipts ++
      [⟨handle.peer.ep, delivery.waitingFor handle.peer.ep, outcome.1⟩] }

variable (eps : List Endpoint)

/-- A step on the endpoints `eps`; message ids are never drawn twice. -/
def step (delivery : PeerDelivery platform) : Event → Option (PeerDelivery platform)
  | .advance seconds => some { delivery with now := delivery.now + seconds }
  | .store id usage msg ep =>
      if ep ∈ eps ∧ id ∉ delivery.stored.map (·.2.id) then
        match delivery.pool.store delivery.now id usage msg ep with
        | .error _ => none
        | .ok pool => some
            { delivery with
              pool := pool
              stored := delivery.stored ++ [(ep, ⟨id, msg, delivery.now⟩)] }
      else none
  | .getPeer ep =>
      if ep ∈ eps then some
        { delivery with
          handles := delivery.handles ++
            [⟨.ofPool delivery.pool ep, (delivery.storedFor ep).length, 0⟩] }
      else none
  | .receive position timeout =>
      (delivery.handles[position]?).map fun handle =>
        delivery.receive position handle timeout

/-- Every message is returned at most once and in order, and a call that is made
while a message waits returns one that waits. -/
structure FifoDelivery (delivery : PeerDelivery platform) : Prop where
  ordered : ∀ ep, delivery.returnedFor ep <+: delivery.storedFor ep
  once : ∀ ep, ((delivery.returnedFor ep).map ReceivedMessage.id).Nodup
  served : ∀ receipt ∈ delivery.receipts, receipt.waiting ≠ [] →
    ∃ received ∈ receipt.waiting,
      receipt.result = .returned received (.make received receipt.ep)

/-- A call of `receive` is in turn: all messages of the endpoint that were returned
so far were returned by this very peer, which was made after the next one was
stored; or nothing waits and nothing is left in the copy of this peer. -/
def InTurn (delivery : PeerDelivery platform) : Event → Prop
  | .receive position _ => ∀ handle, delivery.handles[position]? = some handle →
      (handle.taken = (delivery.returnedFor handle.peer.ep).length ∧
        handle.taken < handle.available) ∨
      (handle.taken = handle.available ∧
        (delivery.returnedFor handle.peer.ep).length =
          (delivery.storedFor handle.peer.ep).length)
  | _ => True

instance decidableInTurn (delivery : PeerDelivery platform) (event : Event) :
    Decidable (delivery.InTurn event) :=
  match event with
  | .receive position _ =>
      inferInstanceAs (Decidable (∀ handle ∈ delivery.handles[position]?,
        (handle.taken = (delivery.returnedFor handle.peer.ep).length ∧
          handle.taken < handle.available) ∨
        (handle.taken = handle.available ∧
          (delivery.returnedFor handle.peer.ep).length =
            (delivery.storedFor handle.peer.ep).length)))
  | .advance _ => .isTrue trivial
  | .store _ _ _ _ => .isTrue trivial
  | .getPeer _ => .isTrue trivial

/-! ## What the pool and the peers hold -/

/-- The entry of an endpoint holds all its messages, and the copy of a peer those
that were there when it was made, without those that it has returned. -/
structure Tracks (delivery : PeerDelivery platform) : Prop where
  inactive : delivery.pool.isActive = false
  distinct : (delivery.stored.map (·.2.id)).Nodup
  entries : ∀ ep ∈ eps,
    (Peer.ofPool delivery.pool ep).queue = delivery.storedFor ep
  handled : ∀ handle ∈ delivery.handles,
    handle.peer.ep ∈ eps ∧ handle.taken ≤ handle.available ∧
      handle.available ≤ (delivery.storedFor handle.peer.ep).length ∧
      handle.peer.queue =
        ((delivery.storedFor handle.peer.ep).take handle.available).drop handle.taken

variable {eps}

/-- The messages that are not among the first `count` ones of a queue are the others. -/
theorem filter_notMem_take {queue : List ReceivedMessage}
    (hdistinct : (queue.map ReceivedMessage.id).Nodup) (count : ℕ) :
    (queue.filter fun received =>
      decide (received.id ∉ (queue.take count).map ReceivedMessage.id)) =
        queue.drop count := by
  have hsplit : (queue.take count).map ReceivedMessage.id ++
      (queue.drop count).map ReceivedMessage.id = queue.map ReceivedMessage.id := by
    rw [← List.map_append, List.take_append_drop]
  rw [← hsplit] at hdistinct
  have hdisjoint := (List.nodup_append.mp hdistinct).2.2
  calc (queue.filter fun received =>
        decide (received.id ∉ (queue.take count).map ReceivedMessage.id))
      = ((queue.take count).filter fun received =>
          decide (received.id ∉ (queue.take count).map ReceivedMessage.id)) ++
        (queue.drop count).filter fun received =>
          decide (received.id ∉ (queue.take count).map ReceivedMessage.id) := by
        rw [← List.filter_append, List.take_append_drop]
    _ = [] ++ queue.drop count := by
        congr 1
        · apply List.filter_eq_nil_iff.mpr
          intro received hmem hnotMem
          exact decide_eq_true_iff.mp hnotMem (List.mem_map_of_mem hmem)
        · apply List.filter_eq_self.mpr
          intro received hmem
          rw [decide_eq_true_iff]
          intro hbefore
          exact hdisjoint _ hbefore _ (List.mem_map_of_mem hmem) rfl
    _ = queue.drop count := List.nil_append _

section Stored

variable {delivery : PeerDelivery platform}

theorem distinct_storedFor (hdistinct : (delivery.stored.map (·.2.id)).Nodup)
    (ep : Endpoint) : ((delivery.storedFor ep).map ReceivedMessage.id).Nodup := by
  rw [storedFor, List.map_map]
  exact hdistinct.sublist (List.filter_sublist.map _)

/-- What waits is what is left of the stored messages. -/
theorem waitingFor_eq (hdistinct : (delivery.stored.map (·.2.id)).Nodup)
    {ep : Endpoint} (hordered : delivery.returnedFor ep <+: delivery.storedFor ep) :
    delivery.waitingFor ep =
      (delivery.storedFor ep).drop (delivery.returnedFor ep).length := by
  have htake := List.prefix_iff_eq_take.mp hordered
  have hwaiting := filter_notMem_take (distinct_storedFor hdistinct ep)
    (delivery.returnedFor ep).length
  rw [← htake] at hwaiting
  exact hwaiting

end Stored

/-! ## Every step keeps track -/

theorem tracks_start (now : ℕ) : Tracks eps (start now : PeerDelivery platform) where
  inactive := rfl
  distinct := List.nodup_nil
  entries ep hep := rfl
  handled handle hhandle := by cases hhandle

section Steps

variable (hsha1 : ∀ ep ∈ eps, ∀ other ∈ eps,
  calcPeerId platform ep = calcPeerId platform other → ep = other)
  {delivery next : PeerDelivery platform}

/-- What storing a message comes to. -/
theorem step_store {id : Uuid} {usage : UInt64} {msg : Message} {ep : Endpoint}
    (hstep : delivery.step eps (.store id usage msg ep) = some next) :
    (ep ∈ eps ∧ id ∉ delivery.stored.map (·.2.id)) ∧
      next.stored = delivery.stored ++ [(ep, ⟨id, msg, delivery.now⟩)] ∧
      next.handles = delivery.handles ∧ next.receipts = delivery.receipts ∧
      next.pool.isActive = delivery.pool.isActive ∧
      ∀ other, (Peer.ofPool next.pool other).queue =
        (Peer.ofPool delivery.pool other).queue ++
          if calcPeerId platform other = calcPeerId platform ep then
            [⟨id, msg, delivery.now⟩] else [] := by
  rw [step] at hstep
  split at hstep
  · rename_i hguard
    rw [MessagePool.store_eq] at hstep
    obtain rfl := Option.some.inj hstep
    exact ⟨hguard, rfl, rfl, rfl, rfl, fun other =>
      Peer.queue_ofPool_storeEntry delivery.pool delivery.now id usage msg ep other _ _⟩
  · cases hstep

theorem storedFor_of_stored {ep : Endpoint} {received : ReceivedMessage}
    (hstored : next.stored = delivery.stored ++ [(ep, received)]) (other : Endpoint) :
    next.storedFor other =
      delivery.storedFor other ++ if other = ep then [received] else [] := by
  rw [storedFor, storedFor, hstored]
  exact Peer.map_filter_stored delivery.stored ep other received

include hsha1

theorem tracks_store (htracks : Tracks eps delivery) {id : Uuid} {usage : UInt64}
    {msg : Message} {ep : Endpoint}
    (hstep : delivery.step eps (.store id usage msg ep) = some next) :
    Tracks eps next ∧ next.receipts = delivery.receipts ∧
      ∀ other, delivery.storedFor other <+: next.storedFor other := by
  obtain ⟨hguard, hstored, hhandles, hreceipts, hactive, hqueues⟩ := step_store hstep
  refine ⟨⟨hactive.trans htracks.inactive, ?_, ?_, ?_⟩, hreceipts, ?_⟩
  · rw [hstored, List.map_append, List.map_singleton, ← List.concat_eq_append]
    exact htracks.distinct.concat hguard.2
  · intro other hother
    rw [hqueues, storedFor_of_stored hstored, htracks.entries other hother]
    by_cases hsame : other = ep
    · rw [if_pos (congrArg _ hsame), if_pos hsame]
    · rw [if_neg (fun heq => hsame (hsha1 other hother ep hguard.1 heq)), if_neg hsame]
  · intro handle hhandle
    rw [hhandles] at hhandle
    obtain ⟨hep, htaken, havailable, hqueue⟩ := htracks.handled handle hhandle
    rw [storedFor_of_stored hstored, List.take_append_of_le_length havailable]
    refine ⟨hep, htaken, ?_, hqueue⟩
    rw [List.length_append]
    exact Nat.le_add_right_of_le havailable
  · intro other
    rw [storedFor_of_stored hstored]
    exact List.prefix_append _ _

omit hsha1

theorem tracks_getPeer (htracks : Tracks eps delivery) {ep : Endpoint}
    (hstep : delivery.step eps (.getPeer ep) = some next) :
    Tracks eps next ∧ next.receipts = delivery.receipts ∧
      next.stored = delivery.stored := by
  rw [step] at hstep
  split at hstep
  · rename_i hep
    obtain rfl := Option.some.inj hstep
    refine ⟨⟨htracks.inactive, htracks.distinct, htracks.entries, ?_⟩, rfl, rfl⟩
    intro handle hhandle
    rcases List.mem_append.mp hhandle with hold | hnew
    · exact htracks.handled handle hold
    · obtain rfl := List.mem_singleton.mp hnew
      refine ⟨hep, Nat.zero_le _, le_rfl, ?_⟩
      rw [htracks.entries ep hep, List.drop_zero]
      exact List.take_length.symm
  · cases hstep

/-- What the queue of a peer holds is decided by the two counts. -/
theorem queue_eq_of_lt {handle : Handle} {queue : List ReceivedMessage}
    (hqueue : handle.peer.queue = (queue.take handle.available).drop handle.taken)
    (hlt : handle.taken < handle.available) (havailable : handle.available ≤ queue.length) :
    handle.peer.queue = queue[handle.taken] ::
      (queue.take handle.available).drop (handle.taken + 1) := by
  have htake : handle.taken < (queue.take handle.available).length := by
    rw [List.length_take]
    omega
  rw [hqueue, List.drop_eq_getElem_cons htake, List.getElem_take]

theorem queue_eq_of_eq {handle : Handle} {queue : List ReceivedMessage}
    (hqueue : handle.peer.queue = (queue.take handle.available).drop handle.taken)
    (heq : handle.taken = handle.available) : handle.peer.queue = [] := by
  rw [hqueue, heq]
  apply List.drop_eq_nil_of_le
  rw [List.length_take]
  exact Nat.min_le_left _ _

theorem tracks_receive (htracks : Tracks eps delivery) {position : ℕ} {handle : Handle}
    (hhandle : handle ∈ delivery.handles) (timeout : ℤ) :
    Tracks eps (delivery.receive position handle timeout) := by
  refine ⟨htracks.inactive, htracks.distinct, htracks.entries, ?_⟩
  intro other hother
  rcases List.mem_or_eq_of_mem_set hother with hold | rfl
  · exact htracks.handled other hold
  · obtain ⟨hep, htaken, havailable, hqueue⟩ := htracks.handled handle hhandle
    simp only [Peer.ep_receive]
    refine ⟨hep, ?_, havailable, ?_⟩
    · rcases Nat.lt_or_eq_of_le htaken with hlt | heq
      · split <;> omega
      · obtain ⟨hnone, -⟩ := Peer.receive_of_nil (queue_eq_of_eq hqueue heq) timeout
        rw [hnone]
        simpa using htaken
    · rcases Nat.lt_or_eq_of_le htaken with hlt | heq
      · obtain ⟨hreturned, hrest⟩ := Peer.receive_of_cons
          (queue_eq_of_lt hqueue hlt havailable) timeout
        rw [hrest, hreturned]
        rfl
      · obtain ⟨hnone, hrest⟩ := Peer.receive_of_nil (queue_eq_of_eq hqueue heq) timeout
        rw [hrest, hnone]
        exact (hqueue.symm.trans (queue_eq_of_eq hqueue heq)).symm

/-- The messages returned after one more call. -/
theorem returnedFor_receive (delivery : PeerDelivery platform) (position : ℕ)
    (handle : Handle) (timeout : ℤ) (ep : Endpoint) :
    (delivery.receive position handle timeout).returnedFor ep =
      delivery.returnedFor ep ++
        if handle.peer.ep = ep then (handle.peer.receive timeout).1.received.toList
        else [] := by
  rw [returnedFor, receive, List.filterMap_append, returnedFor]
  by_cases hep : handle.peer.ep = ep
  · cases hreceived : (handle.peer.receive timeout).1.received with
    | none => simp [hep, hreceived]
    | some received => simp [hep, hreceived]
  · simp [hep]

/-- What a call adds leaves the other endpoints alone. -/
theorem fifoDelivery_of_receive (hfifo : delivery.FifoDelivery)
    (hdistinct : (delivery.stored.map (·.2.id)).Nodup) {position : ℕ} {handle : Handle}
    {timeout : ℤ}
    (hordered : (delivery.receive position handle timeout).returnedFor handle.peer.ep <+:
      delivery.storedFor handle.peer.ep)
    (hserved : delivery.waitingFor handle.peer.ep ≠ [] →
      ∃ received ∈ delivery.waitingFor handle.peer.ep,
        (handle.peer.receive timeout).1 =
          .returned received (.make received handle.peer.ep)) :
    (delivery.receive position handle timeout).FifoDelivery := by
  have hall : ∀ ep, (delivery.receive position handle timeout).returnedFor ep <+:
      delivery.storedFor ep := by
    intro ep
    by_cases hep : handle.peer.ep = ep
    · exact hep ▸ hordered
    · rw [returnedFor_receive, if_neg hep, List.append_nil]
      exact hfifo.ordered ep
  refine ⟨hall, ?_, ?_⟩
  · intro ep
    exact (distinct_storedFor hdistinct ep).sublist ((hall ep).sublist.map _)
  · intro receipt hreceipt
    rcases List.mem_append.mp hreceipt with hold | hnew
    · exact hfifo.served receipt hold
    · obtain rfl := List.mem_singleton.mp hnew
      exact hserved

/-- A call that finds a message returns the right one exactly when all messages
returned before were returned by the same peer. -/
theorem fifoDelivery_receive_of_lt (htracks : Tracks eps delivery)
    (hfifo : delivery.FifoDelivery) {position : ℕ} {handle : Handle}
    (hhandle : handle ∈ delivery.handles) (hlt : handle.taken < handle.available)
    (timeout : ℤ) :
    (delivery.receive position handle timeout).FifoDelivery ↔
      handle.taken = (delivery.returnedFor handle.peer.ep).length := by
  obtain ⟨-, -, havailable, hqueue⟩ := htracks.handled handle hhandle
  have hordered := hfifo.ordered handle.peer.ep
  have hlength : handle.taken < (delivery.storedFor handle.peer.ep).length := by omega
  obtain ⟨hresult, -⟩ := Peer.receive_of_cons (queue_eq_of_lt hqueue hlt havailable)
    timeout
  have hnext : (delivery.receive position handle timeout).returnedFor handle.peer.ep =
      delivery.returnedFor handle.peer.ep ++
        [(delivery.storedFor handle.peer.ep)[handle.taken]] := by
    rw [returnedFor_receive, if_pos rfl, hresult]
    rfl
  constructor
  · intro hafter
    have hprefix : delivery.returnedFor handle.peer.ep ++
        [(delivery.storedFor handle.peer.ep)[handle.taken]] <+:
          delivery.storedFor handle.peer.ep := by
      rw [← hnext]
      exact hafter.ordered handle.peer.ep
    have hsame := hprefix.getElem
      (by simp : (delivery.returnedFor handle.peer.ep).length <
        (delivery.returnedFor handle.peer.ep ++
          [(delivery.storedFor handle.peer.ep)[handle.taken]]).length)
    rw [List.getElem_concat_length rfl] at hsame
    have hnodup := (distinct_storedFor htracks.distinct handle.peer.ep).of_map
    exact (hnodup.getElem_inj_iff).mp hsame
  · intro hturn
    apply fifoDelivery_of_receive hfifo htracks.distinct
    · have htake := List.take_succ_eq_append_getElem hlength
      rw [hnext, List.prefix_iff_eq_take.mp hordered, ← hturn, ← htake]
      exact List.take_prefix _ _
    · intro _
      refine ⟨_, ?_, hresult⟩
      rw [waitingFor_eq htracks.distinct hordered, ← hturn,
        List.drop_eq_getElem_cons hlength]
      exact List.mem_cons_self

/-- A call that finds nothing is right exactly when nothing waits. -/
theorem fifoDelivery_receive_of_eq (htracks : Tracks eps delivery)
    (hfifo : delivery.FifoDelivery) {position : ℕ} {handle : Handle}
    (hhandle : handle ∈ delivery.handles) (heq : handle.taken = handle.available)
    (timeout : ℤ) :
    (delivery.receive position handle timeout).FifoDelivery ↔
      (delivery.returnedFor handle.peer.ep).length =
        (delivery.storedFor handle.peer.ep).length := by
  obtain ⟨-, -, -, hqueue⟩ := htracks.handled handle hhandle
  have hordered := hfifo.ordered handle.peer.ep
  have hwaiting := waitingFor_eq htracks.distinct hordered
  obtain ⟨hnone, -⟩ := Peer.receive_of_nil (queue_eq_of_eq hqueue heq) timeout
  constructor
  · intro hafter
    by_contra hne
    have hsome : delivery.waitingFor handle.peer.ep ≠ [] := by
      rw [hwaiting, ne_eq, List.drop_eq_nil_iff]
      have hle := hordered.length_le
      omega
    obtain ⟨received, -, hresult⟩ := hafter.served
      ⟨handle.peer.ep, delivery.waitingFor handle.peer.ep,
        (handle.peer.receive timeout).1⟩
      (List.mem_append_right _ (List.mem_singleton_self _)) hsome
    have hreturned : (handle.peer.receive timeout).1 = .returned received _ := hresult
    rw [hreturned] at hnone
    cases hnone
  · intro hall
    apply fifoDelivery_of_receive hfifo htracks.distinct
    · rw [returnedFor_receive, if_pos rfl, hnone]
      simpa using hordered
    · intro hsome
      rw [hwaiting, hall, List.drop_length] at hsome
      exact absurd rfl hsome

/-- A call is served in order exactly when it is in turn. -/
theorem fifoDelivery_receive_iff (htracks : Tracks eps delivery)
    (hfifo : delivery.FifoDelivery) {position : ℕ} {handle : Handle}
    (hhandle : delivery.handles[position]? = some handle) (timeout : ℤ) :
    (delivery.receive position handle timeout).FifoDelivery ↔
      delivery.InTurn (.receive position timeout) := by
  have hmem := List.mem_of_getElem? hhandle
  have hinTurn : delivery.InTurn (.receive position timeout) ↔
      (handle.taken = (delivery.returnedFor handle.peer.ep).length ∧
        handle.taken < handle.available) ∨
      (handle.taken = handle.available ∧
        (delivery.returnedFor handle.peer.ep).length =
          (delivery.storedFor handle.peer.ep).length) := by
    constructor
    · intro hall
      exact hall handle hhandle
    · intro hturn other hother
      obtain rfl := Option.some.inj (hhandle.symm.trans hother)
      exact hturn
  rw [hinTurn]
  rcases Nat.lt_or_eq_of_le (htracks.handled handle hmem).2.1 with hlt | heq
  · rw [fifoDelivery_receive_of_lt htracks hfifo hmem hlt]
    have hne : handle.taken ≠ handle.available := Nat.ne_of_lt hlt
    simp [hlt, hne]
  · rw [fifoDelivery_receive_of_eq htracks hfifo hmem heq]
    simp [heq]

end Steps

theorem tracks_step (hsha1 : ∀ ep ∈ eps, ∀ other ∈ eps,
      calcPeerId platform ep = calcPeerId platform other → ep = other)
    {delivery next : PeerDelivery platform} {event : Event}
    (htracks : Tracks eps delivery) (hstep : delivery.step eps event = some next) :
    Tracks eps next := by
  cases event with
  | advance seconds =>
      obtain rfl := Option.some.inj hstep
      exact ⟨htracks.inactive, htracks.distinct, htracks.entries, htracks.handled⟩
  | store id usage msg ep => exact (tracks_store hsha1 htracks hstep).1
  | getPeer ep => exact (tracks_getPeer htracks hstep).1
  | receive position timeout =>
      obtain ⟨handle, hhandle, rfl⟩ := Option.map_eq_some_iff.mp hstep
      exact tracks_receive htracks (List.mem_of_getElem? hhandle) timeout

/-- Everything but a call of `receive` keeps the delivery in order. -/
theorem fifoDelivery_of_receipts {delivery next : PeerDelivery platform}
    (hfifo : delivery.FifoDelivery) (hreceipts : next.receipts = delivery.receipts)
    (hstored : ∀ ep, delivery.storedFor ep <+: next.storedFor ep) :
    next.FifoDelivery := by
  have hreturned : ∀ ep, next.returnedFor ep = delivery.returnedFor ep := by
    intro ep
    rw [returnedFor, returnedFor, hreceipts]
  refine ⟨?_, ?_, ?_⟩
  · intro ep
    rw [hreturned]
    exact (hfifo.ordered ep).trans (hstored ep)
  · intro ep
    rw [hreturned]
    exact hfifo.once ep
  · rw [hreceipts]
    exact hfifo.served

/-- Messages reach the peers once and in order throughout exactly those runs in which
every call of `receive` is in turn. -/
theorem throughout_fifoDelivery_iff (hsha1 : ∀ ep ∈ eps, ∀ other ∈ eps,
      calcPeerId platform ep = calcPeerId platform other → ep = other)
    (now : ℕ) (events : List Event) :
    Runs.Throughout (step eps) FifoDelivery (start now : PeerDelivery platform) events ↔
      Runs.Meets (step eps) InTurn (start now : PeerDelivery platform) events := by
  apply Runs.throughout_iff_meets (Tracks eps)
  · intro delivery event next htracks hstep
    exact tracks_step hsha1 htracks hstep
  · intro delivery event next htracks hfifo hstep
    cases event with
    | advance seconds =>
        obtain rfl := Option.some.inj hstep
        exact iff_of_true (fifoDelivery_of_receipts hfifo rfl fun _ => List.prefix_rfl)
          trivial
    | store id usage msg ep =>
        obtain ⟨-, hreceipts, hstored⟩ := tracks_store hsha1 htracks hstep
        exact iff_of_true (fifoDelivery_of_receipts hfifo hreceipts hstored) trivial
    | getPeer ep =>
        obtain ⟨-, hreceipts, hstored⟩ := tracks_getPeer htracks hstep
        refine iff_of_true (fifoDelivery_of_receipts hfifo hreceipts fun ep => ?_) trivial
        rw [storedFor, storedFor, hstored]
    | receive position timeout =>
        obtain ⟨handle, hhandle, rfl⟩ := Option.map_eq_some_iff.mp hstep
        exact fifoDelivery_receive_iff htracks hfifo hhandle timeout
  · intro delivery event hstuck
    cases event with
    | receive position timeout =>
        intro handle hhandle
        rw [step, hhandle] at hstuck
        cases hstuck
    | _ => trivial
  · exact tracks_start now
  · refine ⟨fun ep => List.prefix_rfl, fun ep => List.nodup_nil, ?_⟩
    intro receipt hreceipt
    cases hreceipt

/-- Two messages of `10.0.0.2` are stored before the peer is made that receives
them. -/
def storedBefore : List Event :=
  [.store 1 0 ⟨[("messenger", .string "first")]⟩ (nodeAt 2), .advance 1,
    .store 2 0 ⟨[("messenger", .string "second")]⟩ (nodeAt 2), .getPeer (nodeAt 2),
    .receive 0 (-1), .receive 0 (-1)]

theorem throughout_fifoDelivery_storedBefore :
    Runs.Throughout (step [nodeAt 1, nodeAt 2]) FifoDelivery
      (start 0 : PeerDelivery (hostPlatform [])) storedBefore :=
  (throughout_fifoDelivery_iff (by decide +kernel) 0 storedBefore).mpr
    (by decide +kernel)

/-- The second message is stored after the peer was made: the peer returns the first
one, and waits without end while the second one is there. -/
theorem not_fifoDelivery_stale :
    ¬ Runs.Throughout (step [nodeAt 2]) FifoDelivery
      (start 0 : PeerDelivery (hostPlatform []))
      [.store 1 0 ⟨[("messenger", .string "first")]⟩ (nodeAt 2), .getPeer (nodeAt 2),
        .store 2 0 ⟨[("messenger", .string "second")]⟩ (nodeAt 2), .receive 0 (-1),
        .receive 0 (-1)] := by
  intro hthroughout
  have hreceipt : ((Runs.execute (step [nodeAt 2])
      (start 0 : PeerDelivery (hostPlatform []))
      [.store 1 0 ⟨[("messenger", .string "first")]⟩ (nodeAt 2), .getPeer (nodeAt 2),
        .store 2 0 ⟨[("messenger", .string "second")]⟩ (nodeAt 2), .receive 0 (-1),
        .receive 0 (-1)]).bind fun delivery => delivery.receipts[1]?.map fun receipt =>
          (receipt.waiting.length, receipt.result.received.isSome)) =
      some (1, false) := by
    decide +kernel
  obtain ⟨delivery, hdelivery, hreceipt⟩ := Option.bind_eq_some_iff.mp hreceipt
  obtain ⟨receipt, hmem, hpair⟩ := Option.map_eq_some_iff.mp hreceipt
  obtain ⟨hwaiting, hnone⟩ := Prod.mk.inj hpair
  have hfifo := Runs.last_of_throughout hthroughout hdelivery
  have hsome : receipt.waiting ≠ [] := by
    intro hempty
    rw [hempty] at hwaiting
    cases hwaiting
  obtain ⟨received, -, hresult⟩ :=
    hfifo.served receipt (List.mem_of_getElem? hmem) hsome
  rw [hresult] at hnone
  cases hnone

end PeerDelivery

end SsP2p.Net

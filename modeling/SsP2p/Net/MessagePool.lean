import Mathlib.Data.List.Sort
import SsP2p.Core.Message
import SsP2p.Lib.Fallible
import SsP2p.Lib.KeyedList
import SsP2p.Lib.UpperBound

/-!
# The message pool

`message_pool` keeps one `peer_message_buffer` for every endpoint that has sent a
message, found by the peer id of that endpoint.  A handle on a buffer is a copy of
the entry; the message hub pops from another copy.
-/

namespace SsP2p.Net

abbrev PeerId := Digest

def calcPeerId (platform : Platform) (ep : Endpoint) : PeerId :=
  platform.sha1 (bytesOf (endpointToStr platform ep))

structure ReceivedMessage where
  id : Uuid
  msg : Message
  time : ℕ

def defaultMessageLifetimeM : ℤ := 20

inductive PopFlag where
  | none
  | peek
  deriving DecidableEq

structure PeerMessageBuffer where
  msgQueue : List ReceivedMessage
  bindingEp : Endpoint
  dynamicMemUsageBytes : UInt64
  lastBindedAt : ℕ
  lastReceivedAt : ℕ

namespace PeerMessageBuffer

/-- The constructor leaves the usage counter uninitialised: `usage` is what it
happens to hold. -/
def make (ep : Endpoint) (usage : UInt64) : PeerMessageBuffer :=
  ⟨[], ep, usage, 0, 0⟩

def copy (source : PeerMessageBuffer) : PeerMessageBuffer :=
  ⟨source.msgQueue, source.bindingEp, source.dynamicMemUsageBytes, source.lastBindedAt,
    source.lastReceivedAt⟩

def push (buffer : PeerMessageBuffer) (now : ℕ) (id : Uuid) (msg : Message) :
    PeerMessageBuffer :=
  { buffer with
    msgQueue := buffer.msgQueue ++ [⟨id, msg, now⟩]
    dynamicMemUsageBytes := buffer.dynamicMemUsageBytes + 1
    lastReceivedAt := now }

def pop (buffer : PeerMessageBuffer) (idx : ℕ) (flag : PopFlag) :
    Option ReceivedMessage × PeerMessageBuffer :=
  match buffer.msgQueue[idx]?, flag with
  | none, _ => (none, buffer)
  | some received, .peek => (some received, buffer)
  | some received, .none =>
      (some received,
        { buffer with
          msgQueue := buffer.msgQueue.eraseIdx idx
          dynamicMemUsageBytes := buffer.dynamicMemUsageBytes - 1 })

/-- The position that the loop of `pop_by_id` ends with: the last one. -/
def lastIdxOf (queue : List ReceivedMessage) (id : Uuid) : Option ℕ :=
  (queue.reverse.findIdx? fun received => decide (received.id = id)).map fun idx =>
    queue.length - 1 - idx

def popById (buffer : PeerMessageBuffer) (id : Uuid) (flag : PopFlag) :
    Except Fault (Option ReceivedMessage × PeerMessageBuffer) :=
  if buffer.msgQueue.isEmpty then .ok (none, buffer)
  else
    match lastIdxOf buffer.msgQueue id, flag with
    | some idx, flag => .ok (buffer.pop idx flag)
    | none, .peek => .ok (none, buffer)
    | none, .none => .error .eraseEnd

def compareReceivedAt (baseTime : ℤ) (received : ReceivedMessage) : Bool :=
  decide (baseTime < received.time)

/-- In a sorted queue, what is behind a message that was received after a time was, too. -/
theorem pairwise_compareReceivedAt {queue : List ReceivedMessage}
    (hsorted : queue.Pairwise fun left right => left.time ≤ right.time) (baseTime : ℤ) :
    queue.Pairwise fun left right =>
      compareReceivedAt baseTime left = true → compareReceivedAt baseTime right = true := by
  apply hsorted.imp
  intro left right hle hleft
  rw [compareReceivedAt, decide_eq_true_iff] at hleft ⊢
  omega

/-- The time that `pop_since` looks from: `0` stands for the last bind time. -/
def sinceTime (buffer : PeerMessageBuffer) (since : ℤ) : ℤ :=
  if since = 0 then buffer.lastBindedAt else since

/-- `pop_since`; it does not look at its flag. -/
def popSince (buffer : PeerMessageBuffer) (since : ℤ) (_flag : PopFlag) :
    Option ReceivedMessage × PeerMessageBuffer :=
  (buffer.msgQueue[UpperBound.upperBound (compareReceivedAt (buffer.sinceTime since))
    buffer.msgQueue]?, buffer)

def clear (buffer : PeerMessageBuffer) : PeerMessageBuffer :=
  { buffer with msgQueue := [] }

def updateLastBindedAt (buffer : PeerMessageBuffer) (now : ℕ) : PeerMessageBuffer :=
  { buffer with lastBindedAt := now }

/-- `drop` on a range of reverse iterators, given by the positions of their bases: the bases
are swapped for the call of `erase`. -/
def drop (buffer : PeerMessageBuffer) (beginBase endBase : ℕ) : PeerMessageBuffer :=
  { buffer with
    msgQueue := buffer.msgQueue.take endBase ++ buffer.msgQueue.drop beginBase }

/-- What `refresh_tick` does to one entry; the base of `rend` is the front of the queue. -/
def expire (now : ℕ) (buffer : PeerMessageBuffer) : PeerMessageBuffer :=
  buffer.drop (UpperBound.upperBound
    (compareReceivedAt (now - defaultMessageLifetimeM * 60)) buffer.msgQueue) 0

def peerId (platform : Platform) (buffer : PeerMessageBuffer) : PeerId :=
  calcPeerId platform buffer.bindingEp

theorem peerId_push (platform : Platform) (now : ℕ) (id : Uuid) (msg : Message)
    (buffer : PeerMessageBuffer) :
    (buffer.push now id msg).peerId platform = buffer.peerId platform := rfl

theorem peerId_expire (platform : Platform) (now : ℕ) (buffer : PeerMessageBuffer) :
    (buffer.expire now).peerId platform = buffer.peerId platform := rfl

/-! ## What `pop_by_id` does -/

theorem lastIdxOf_eq_none_iff {queue : List ReceivedMessage} {id : Uuid} :
    lastIdxOf queue id = none ↔ ∀ received ∈ queue, received.id ≠ id := by
  simp [lastIdxOf]

theorem getElem?_of_lastIdxOf {queue : List ReceivedMessage} {id : Uuid} {idx : ℕ}
    (hidx : lastIdxOf queue id = some idx) :
    ∃ received, queue[idx]? = some received ∧ received.id = id := by
  rw [lastIdxOf, Option.map_eq_some_iff] at hidx
  obtain ⟨fromBack, hfound, rfl⟩ := hidx
  obtain ⟨hlt, hid, -⟩ := List.findIdx?_eq_some_iff_getElem.mp hfound
  rw [List.getElem_reverse, decide_eq_true_eq] at hid
  rw [List.length_reverse] at hlt
  exact ⟨_, List.getElem?_eq_getElem (by omega), hid⟩

theorem popById_of_nil {buffer : PeerMessageBuffer} (hempty : buffer.msgQueue = [])
    (id : Uuid) (flag : PopFlag) : buffer.popById id flag = .ok (none, buffer) := by
  simp [popById, hempty]

theorem popById_of_found {buffer : PeerMessageBuffer} {id : Uuid} {idx : ℕ}
    (hidx : lastIdxOf buffer.msgQueue id = some idx) (flag : PopFlag) :
    buffer.popById id flag = .ok (buffer.pop idx flag) := by
  have hnonempty : ¬ buffer.msgQueue.isEmpty = true := by
    rw [List.isEmpty_iff]
    rintro hnil
    obtain ⟨received, hreceived, -⟩ := getElem?_of_lastIdxOf hidx
    rw [hnil] at hreceived
    cases hreceived
  simp only [popById, if_neg hnonempty, hidx]

/-- Where no message has the id, the end of the queue is erased. -/
theorem popById_of_absent {buffer : PeerMessageBuffer} (hnonempty : buffer.msgQueue ≠ [])
    {id : Uuid} (habsent : ∀ received ∈ buffer.msgQueue, received.id ≠ id) (flag : PopFlag) :
    buffer.popById id flag =
      if flag = .peek then .ok (none, buffer) else .error .eraseEnd := by
  rw [← List.isEmpty_eq_false_iff] at hnonempty
  have hidx := lastIdxOf_eq_none_iff.mpr habsent
  cases flag <;> simp [popById, hnonempty, hidx]

/-- `pop_by_id` ends at the message that was pushed last. -/
theorem lastIdxOf_append (queue : List ReceivedMessage) (received : ReceivedMessage) :
    lastIdxOf (queue ++ [received]) received.id = some queue.length := by
  rw [lastIdxOf, List.reverse_append, List.reverse_singleton, List.singleton_append,
    List.findIdx?_cons, decide_eq_true rfl, if_pos rfl, Option.map_some, List.length_append,
    List.length_singleton]
  rfl

/-- The message that was just pushed is popped, whatever else has its id. -/
theorem popById_push (buffer : PeerMessageBuffer) (now : ℕ) (id : Uuid) (msg : Message) :
    ∃ rest, (buffer.push now id msg).popById id .none = .ok (some ⟨id, msg, now⟩, rest) := by
  have hidx : lastIdxOf (buffer.push now id msg).msgQueue id =
      some buffer.msgQueue.length := lastIdxOf_append buffer.msgQueue ⟨id, msg, now⟩
  have hpushed : (buffer.push now id msg).msgQueue[buffer.msgQueue.length]? =
      some ⟨id, msg, now⟩ := List.getElem?_concat_length
  rw [popById_of_found hidx]
  simp only [pop, hpushed]
  exact ⟨_, rfl⟩

end PeerMessageBuffer

structure SsMessage where
  body : Message
  srcEndpoint : Endpoint
  timestamp : ℕ

def SsMessage.make (received : ReceivedMessage) (srcEp : Endpoint) : SsMessage :=
  ⟨received.msg, srcEp, received.time⟩

/-- `message_pool`, with what its hub has handed to the handler of the application
so far. -/
structure MessagePool (platform : Platform) where
  pool : KeyedList (PeerMessageBuffer.peerId platform)
  isActive : Bool
  handled : List SsMessage

namespace MessagePool

variable {platform : Platform}

/-- The pool of a new node; its hub is not started. -/
def empty : MessagePool platform := ⟨.empty, false, []⟩

/-- `message_hub::start`; `handled` is what its handler gets. -/
def hubStart (pool : MessagePool platform) : MessagePool platform :=
  { pool with isActive := true }

def hubStop (pool : MessagePool platform) : MessagePool platform :=
  { pool with isActive := false }

/-- `get_peer_message_buffer`: a copy of the entry, `none` for `nullptr`. -/
def getPeerMessageBuffer (pool : MessagePool platform) (pid : PeerId) :
    Option PeerMessageBuffer :=
  pool.pool.find pid

/-- `allocate_new_entry`, when no entry has the peer id yet. -/
def allocate (pool : KeyedList (PeerMessageBuffer.peerId platform)) (ep : Endpoint)
    (usage : UInt64) : KeyedList (PeerMessageBuffer.peerId platform) :=
  pool.insert (.make ep usage)

/-- The entry that `store` pushes to, with the message in it. -/
def storeEntry (pool : KeyedList (PeerMessageBuffer.peerId platform)) (now : ℕ)
    (id : Uuid) (usage : UInt64) (msg : Message) (ep : Endpoint) :
    KeyedList (PeerMessageBuffer.peerId platform) :=
  (allocate pool ep usage).modify (calcPeerId platform ep) (·.push now id msg)
    (PeerMessageBuffer.peerId_push platform now id msg)

/-- `message_hub::on_receive_message` with a copy of the entry to pop from. -/
def onReceiveMessage (pool : MessagePool platform) (entry : PeerMessageBuffer)
    (id : Uuid) (srcEp : Endpoint) : Except Fault (MessagePool platform) := do
  match ← entry.popById id .none with
  | (none, _) => return pool
  | (some received, _) =>
      return { pool with handled := pool.handled ++ [SsMessage.make received srcEp] }

def store (pool : MessagePool platform) (now : ℕ) (id : Uuid) (usage : UInt64)
    (msg : Message) (ep : Endpoint) : Except Fault (MessagePool platform) :=
  let entries := storeEntry pool.pool now id usage msg ep
  let stored := { pool with pool := entries }
  if pool.isActive then
    match entries.find (calcPeerId platform ep) with
    | some entry => stored.onReceiveMessage entry id ep
    | none => return stored
  else return stored

/-- One entry of `refresh_tick`. -/
def expireEntry (now : ℕ) (pool : KeyedList (PeerMessageBuffer.peerId platform))
    (pid : PeerId) : KeyedList (PeerMessageBuffer.peerId platform) :=
  pool.modify pid (·.expire now) (PeerMessageBuffer.peerId_expire platform now)

/-- The index `by_received_at`, by the keys of the entries. -/
def byReceivedAt (pool : KeyedList (PeerMessageBuffer.peerId platform)) : List PeerId :=
  (pool.items.insertionSort fun left right =>
    left.lastReceivedAt ≤ right.lastReceivedAt).map (PeerMessageBuffer.peerId platform)

/-- `refresh_tick`.  The order of the index does not change on the way, since no entry
receives anything. -/
def refreshTick (pool : MessagePool platform) (now : ℕ) : MessagePool platform :=
  { pool with pool := (byReceivedAt pool.pool).foldl (expireEntry now) pool.pool }

theorem find_storeEntry (pool : KeyedList (PeerMessageBuffer.peerId platform)) (now : ℕ)
    (id : Uuid) (usage : UInt64) (msg : Message) (ep : Endpoint) (pid : PeerId) :
    (storeEntry pool now id usage msg ep).find pid =
      if pid = calcPeerId platform ep then
        some (((pool.find pid).getD (.make ep usage)).push now id msg)
      else pool.find pid := by
  rw [storeEntry, KeyedList.find_modify, allocate]
  by_cases hpid : pid = calcPeerId platform ep
  · subst hpid
    rw [if_pos rfl, if_pos rfl]
    have hself := KeyedList.find_insert_self pool (PeerMessageBuffer.make ep usage)
    rw [show PeerMessageBuffer.peerId platform (.make ep usage) = calcPeerId platform ep
      from rfl] at hself
    rw [hself]
    rfl
  · rw [if_neg hpid, if_neg hpid]
    exact KeyedList.find_insert_of_ne pool fun heq => hpid heq.symm

/-- `store` always returns.  The message stays in the entry, and the handler gets it when
the hub is active. -/
theorem store_eq (pool : MessagePool platform) (now : ℕ) (id : Uuid) (usage : UInt64)
    (msg : Message) (ep : Endpoint) :
    pool.store now id usage msg ep = .ok
      { pool with
        pool := storeEntry pool.pool now id usage msg ep
        handled := pool.handled ++
          if pool.isActive then [SsMessage.make ⟨id, msg, now⟩ ep] else [] } := by
  simp only [store, find_storeEntry, if_true]
  by_cases hactive : pool.isActive = true
  · obtain ⟨rest, hpop⟩ := PeerMessageBuffer.popById_push
      ((pool.pool.find (calcPeerId platform ep)).getD (.make ep usage)) now id msg
    rw [if_pos hactive, if_pos hactive, onReceiveMessage, hpop]
    rfl
  · rw [if_neg hactive, if_neg hactive, List.append_nil]
    rfl

end MessagePool

end SsP2p.Net

import SsP2p.Net.MessagePool

/-!
# Peers

A `peer` is the handle of the application on one endpoint.  It receives from the
buffer that it was given when it was made, which no other object refers to.
-/

namespace SsP2p.Net

/-- `peer`; `buffer` is what `_msg_pool_entry_ref` points to, `none` for
`nullptr`. -/
structure Peer where
  ep : Endpoint
  buffer : Option PeerMessageBuffer

inductive ReceiveResult where
  /-- The message that was popped, and what is made of it. -/
  | returned (received : ReceivedMessage) (msg : SsMessage)
  /-- The call waits for a push to the buffer of the peer. -/
  | blocked
  | faulted (fault : Fault)

def ReceiveResult.received : ReceiveResult → Option ReceivedMessage
  | returned received _ => some received
  | _ => none

namespace Peer

variable {platform : Platform}

/-- `node_controller::get_peer` and `get_peer_ref`. -/
def ofPool (pool : MessagePool platform) (ep : Endpoint) : Peer :=
  ⟨ep, pool.getPeerMessageBuffer (calcPeerId platform ep)⟩

/-- `receive`.  Nobody else pushes to the buffer, so that a wait without a limit
does not end and any other wait ends without a message. -/
def receive (peer : Peer) (timeout : ℤ) : ReceiveResult × Peer :=
  match peer.buffer with
  | none => (.faulted .nullPointer, peer)
  | some buffer =>
      match buffer.pop 0 .none with
      | (some received, buffer) =>
          (.returned received (.make received peer.ep), { peer with buffer := buffer })
      | (none, buffer) =>
          (if timeout = -1 then .blocked else .faulted .nullPointer,
            { peer with buffer := buffer })

/-- The queue that the peer receives from, empty when there is no buffer. -/
def queue (peer : Peer) : List ReceivedMessage :=
  peer.buffer.elim [] PeerMessageBuffer.msgQueue

@[simp]
theorem ep_receive (peer : Peer) (timeout : ℤ) :
    (peer.receive timeout).2.ep = peer.ep := by
  rw [receive]
  split
  · rfl
  · split <;> rfl

/-- One more stored message, among the messages of its endpoint. -/
theorem map_filter_stored (stored : List (Endpoint × ReceivedMessage)) (ep other : Endpoint)
    (received : ReceivedMessage) :
    ((stored ++ [(ep, received)]).filter fun entry => entry.1 = other).map Prod.snd =
      (stored.filter fun entry => entry.1 = other).map Prod.snd ++
        if other = ep then [received] else [] := by
  rw [List.filter_append, List.map_append]
  by_cases hsame : other = ep
  · simp [hsame]
  · simp [hsame, Ne.symm hsame]

/-- A stored message is at the end of the queue that a new peer of its endpoint gets. -/
theorem queue_ofPool_storeEntry (pool : MessagePool platform) (now : ℕ) (id : Uuid)
    (usage : UInt64) (msg : Message) (ep other : Endpoint) (isActive : Bool)
    (handled : List SsMessage) :
    (ofPool ⟨MessagePool.storeEntry pool.pool now id usage msg ep, isActive, handled⟩
      other).queue =
      (ofPool pool other).queue ++
        if calcPeerId platform other = calcPeerId platform ep then [⟨id, msg, now⟩]
        else [] := by
  simp only [ofPool, MessagePool.getPeerMessageBuffer, queue, MessagePool.find_storeEntry]
  by_cases hsame : calcPeerId platform other = calcPeerId platform ep
  · rw [if_pos hsame, if_pos hsame]
    cases pool.pool.find (calcPeerId platform other) with
    | none => rfl
    | some buffer => rfl
  · rw [if_neg hsame, if_neg hsame, List.append_nil]

/-- A call on an empty queue returns nothing. -/
theorem receive_of_nil {peer : Peer} (hqueue : peer.queue = []) (timeout : ℤ) :
    (peer.receive timeout).1.received = none ∧
      (peer.receive timeout).2.queue = [] := by
  rw [queue] at hqueue
  cases hbuffer : peer.buffer with
  | none => simp [receive, hbuffer, queue, ReceiveResult.received]
  | some buffer =>
      rw [hbuffer] at hqueue
      have hempty : buffer.msgQueue = [] := hqueue
      have hpop : buffer.pop 0 .none = (none, buffer) := by
        simp [PeerMessageBuffer.pop, hempty]
      simp only [receive, hbuffer, hpop, queue]
      refine ⟨?_, hempty⟩
      split <;> rfl

/-- Any other call returns the front of the queue. -/
theorem receive_of_cons {peer : Peer} {received : ReceivedMessage}
    {rest : List ReceivedMessage} (hqueue : peer.queue = received :: rest)
    (timeout : ℤ) :
    (peer.receive timeout).1 = .returned received (.make received peer.ep) ∧
      (peer.receive timeout).2.queue = rest := by
  rw [queue] at hqueue
  cases hbuffer : peer.buffer with
  | none =>
      rw [hbuffer] at hqueue
      cases hqueue
  | some buffer =>
      rw [hbuffer] at hqueue
      have hcons : buffer.msgQueue = received :: rest := hqueue
      simp [receive, hbuffer, queue, PeerMessageBuffer.pop, hcons]

end Peer

end SsP2p.Net

import SsP2p.Core.HostPlatform
import SsP2p.Lib.Runs
import SsP2p.Net.Peer

/-!
# Receiving while messages arrive

A call of `receive` pops, waits if there is nothing and its timeout allows it, pops again
whenever it is woken, and in the end makes an `ss_message` of what it has.  A peer that is
made before its endpoint has an entry has no buffer to pop from.  Any other peer has a
copy that no arrival reaches, so that a wait never ends with a message, and at the end of
one that has a limit there is no message to make anything of.
-/

namespace SsP2p.Net

def ReceiveResult.isFault : ReceiveResult → Bool
  | faulted _ => true
  | _ => false

namespace Peer

/-- `_msg_pool_entry_ref->pop()`. -/
def pollBuffer (peer : Peer) : Except Fault (Option ReceivedMessage × Peer) :=
  match peer.buffer with
  | none => .error .nullPointer
  | some buffer =>
      .ok ((buffer.pop 0 .none).1, { peer with buffer := some (buffer.pop 0 .none).2 })

/-- The `ss_message` that `receive` makes in the end. -/
def makeResult (peer : Peer) : Option ReceivedMessage → ReceiveResult
  | some received => .returned received (.make received peer.ep)
  | none => .faulted .nullPointer

/-- A call in one piece is a poll, and then the result, unless it waits for ever. -/
theorem receive_eq_pollBuffer (peer : Peer) (timeout : ℤ) :
    peer.receive timeout =
      match peer.pollBuffer with
      | .error fault => (.faulted fault, peer)
      | .ok (found, after) =>
          (if found.isNone && timeout = -1 then .blocked else after.makeResult found,
            after) := by
  cases hbuffer : peer.buffer with
  | none => simp only [receive, pollBuffer, hbuffer]
  | some buffer =>
      cases hpop : buffer.pop 0 .none with
      | mk found after =>
          cases found with
          | none => simp [receive, pollBuffer, hbuffer, hpop, makeResult]
          | some received => simp [receive, pollBuffer, hbuffer, hpop, makeResult]

def Drained (peer : Peer) : Prop :=
  ∃ buffer, peer.buffer = some buffer ∧ buffer.msgQueue = []

theorem pollBuffer_of_drained {peer : Peer} (hdrained : peer.Drained) :
    peer.pollBuffer = .ok (none, peer) := by
  obtain ⟨buffer, hbuffer, hqueue⟩ := hdrained
  have hpop : buffer.pop 0 .none = (none, buffer) := by
    simp [PeerMessageBuffer.pop, hqueue]
  simp only [pollBuffer, hbuffer, hpop]
  rw [← hbuffer]

/-- A poll does not fill a buffer. -/
theorem drained_of_drained {peer after : Peer} {found : Option ReceivedMessage}
    (hpoll : peer.pollBuffer = .ok (found, after)) (hdrained : peer.Drained) :
    after.Drained := by
  rw [pollBuffer_of_drained hdrained] at hpoll
  obtain ⟨-, rfl⟩ := Prod.mk.inj (Except.ok.inj hpoll)
  exact hdrained

/-- A poll that finds nothing leaves nothing. -/
theorem drained_of_pollBuffer {peer after : Peer} (hpoll : peer.pollBuffer = .ok (none, after)) :
    after.Drained := by
  simp only [pollBuffer] at hpoll
  cases hbuffer : peer.buffer with
  | none =>
      rw [hbuffer] at hpoll
      cases hpoll
  | some buffer =>
      rw [hbuffer] at hpoll
      obtain ⟨hnone, rfl⟩ := Prod.mk.inj (Except.ok.inj hpoll)
      refine ⟨_, rfl, ?_⟩
      cases hqueue : buffer.msgQueue with
      | nil => simp [PeerMessageBuffer.pop, hqueue]
      | cons received rest => simp [PeerMessageBuffer.pop, hqueue] at hnone

end Peer

/-- A call of `receive` that waits: the position of its peer, and the time when the wait
ends, `none` for a wait without a limit. -/
structure ReceiveWait where
  position : ℕ
  limit : Option ℤ

/-- The pool of a node and the peers that were made, with the calls of `receive` that wait
and the results of those that have ended. -/
structure ReceiveRun (platform : Platform) where
  pool : MessagePool platform
  now : ℕ
  peers : List Peer
  waits : List ReceiveWait
  results : List ReceiveResult

namespace ReceiveRun

inductive Event where
  | advance (seconds : ℕ)
  | store (id : Uuid) (usage : UInt64) (msg : Message) (ep : Endpoint)
  | refreshTick
  /-- `get_peer` or `get_peer_ref`. -/
  | getPeer (ep : Endpoint)
  /-- `receive` on the peer at this position. -/
  | receive (position : ℕ) (timeout : ℤ)
  /-- The call at this position of `waits` is woken, by a push or for no reason. -/
  | wake (index : ℕ)
  /-- The limit of the wait at this position has passed. -/
  | timeUp (index : ℕ)

variable {platform : Platform}

def start (pool : MessagePool platform) (now : ℕ) : ReceiveRun platform :=
  ⟨pool, now, [], [], []⟩

/-- A call on the peer at a position ends. -/
def finish (run : ReceiveRun platform) (position : ℕ) (peer : Peer) (result : ReceiveResult) :
    ReceiveRun platform :=
  { run with
    peers := run.peers.set position peer
    results := run.results ++ [result] }

/-- A call of `receive`, until it ends or waits. -/
def receive (run : ReceiveRun platform) (position : ℕ) (peer : Peer) (timeout : ℤ) :
    ReceiveRun platform :=
  match peer.pollBuffer with
  | .error fault => run.finish position peer (.faulted fault)
  | .ok (found, after) =>
      if found.isNone && timeout ≠ 0 then
        { run with
          peers := run.peers.set position after
          waits := run.waits ++
            [⟨position, if timeout = -1 then none else some (run.now + timeout)⟩] }
      else run.finish position after (after.makeResult found)

/-- The predicate of a wait is run; the call ends with what it has found, and in any case
when the time is up. -/
def poll (run : ReceiveRun platform) (index : ℕ) (wait : ReceiveWait) (peer : Peer)
    (timeIsUp : Bool) : ReceiveRun platform :=
  match peer.pollBuffer with
  | .error fault =>
      { run.finish wait.position peer (.faulted fault) with waits := run.waits.eraseIdx index }
  | .ok (found, after) =>
      if found.isSome || timeIsUp then
        { run.finish wait.position after (after.makeResult found) with
          waits := run.waits.eraseIdx index }
      else { run with peers := run.peers.set wait.position after }

def limitPassed (run : ReceiveRun platform) (wait : ReceiveWait) : Bool :=
  wait.limit.any fun limit => decide (limit ≤ (run.now : ℤ))

def step (run : ReceiveRun platform) : Event → Option (ReceiveRun platform)
  | .advance seconds => some { run with now := run.now + seconds }
  | .store id usage msg ep =>
      match run.pool.store run.now id usage msg ep with
      | .error _ => none
      | .ok pool => some { run with pool := pool }
  | .refreshTick => some { run with pool := run.pool.refreshTick run.now }
  | .getPeer ep => some { run with peers := run.peers ++ [.ofPool run.pool ep] }
  | .receive position timeout =>
      (run.peers[position]?).map fun peer => run.receive position peer timeout
  | .wake index =>
      (run.waits[index]?).bind fun wait =>
        (run.peers[wait.position]?).map fun peer => run.poll index wait peer false
  | .timeUp index =>
      (run.waits[index]?).bind fun wait =>
        if run.limitPassed wait then
          (run.peers[wait.position]?).map fun peer => run.poll index wait peer true
        else none

def NeverFaulted (run : ReceiveRun platform) : Prop :=
  ∀ result ∈ run.results, result.isFault = false

instance (run : ReceiveRun platform) : Decidable run.NeverFaulted :=
  inferInstanceAs (Decidable (∀ result ∈ run.results, result.isFault = false))

/-- A call is made on a peer that has a buffer, with a message in it or with a timeout other
than `0`, and no wait reaches its limit. -/
def Meets (run : ReceiveRun platform) : Event → Prop
  | .receive position timeout => ∀ peer, run.peers[position]? = some peer →
      peer.buffer ≠ none ∧ (timeout = 0 → peer.queue ≠ [])
  | .timeUp index => ∀ wait peer, run.waits[index]? = some wait →
      run.peers[wait.position]? = some peer → run.limitPassed wait = false
  | _ => True

/-- Where a call waits, the buffer of its peer is empty. -/
def WaitsDrained (run : ReceiveRun platform) : Prop :=
  ∀ wait ∈ run.waits, ∃ peer, run.peers[wait.position]? = some peer ∧ peer.Drained

/-- One peer is replaced, by one that is drained if it was: the waits that were there and
new ones on it are on drained peers. -/
theorem waitsDrained_of_set {run next : ReceiveRun platform} (hdrained : run.WaitsDrained)
    {position : ℕ} {peer after : Peer} (hpeer : run.peers[position]? = some peer)
    (hkeep : peer.Drained → after.Drained) (hpeers : next.peers = run.peers.set position after)
    (hwaits : ∀ wait ∈ next.waits, wait ∈ run.waits ∨ wait.position = position ∧ after.Drained) :
    next.WaitsDrained := by
  intro wait hwait
  rw [hpeers]
  by_cases hsame : position = wait.position
  · subst hsame
    refine ⟨after, by rw [List.getElem?_set_self', hpeer]; rfl, ?_⟩
    rcases hwaits wait hwait with hold | ⟨-, hafter⟩
    · obtain ⟨other, hother, hempty⟩ := hdrained wait hold
      obtain rfl := Option.some.inj (hpeer.symm.trans hother)
      exact hkeep hempty
    · exact hafter
  · obtain ⟨other, hother, hempty⟩ := hdrained wait
      ((hwaits wait hwait).resolve_right fun hnew => hsame hnew.1.symm)
    exact ⟨other, by rw [List.getElem?_set_ne hsame, hother], hempty⟩

theorem waitsDrained_receive {run : ReceiveRun platform} (hdrained : run.WaitsDrained)
    {position : ℕ} {peer : Peer} (hpeer : run.peers[position]? = some peer) (timeout : ℤ) :
    (run.receive position peer timeout).WaitsDrained := by
  rw [receive]
  cases hpoll : peer.pollBuffer with
  | error fault =>
      exact waitsDrained_of_set hdrained hpeer id rfl fun _ hwait => Or.inl hwait
  | ok polled =>
      obtain ⟨found, after⟩ := polled
      have hkeep := Peer.drained_of_drained hpoll
      cases found with
      | some received =>
          exact waitsDrained_of_set hdrained hpeer hkeep rfl fun _ hwait => Or.inl hwait
      | none =>
          by_cases hzero : timeout = 0
          · simp only [hzero, Option.isNone_none, ne_eq, not_true_eq_false, decide_false,
              Bool.and_false, Bool.false_eq_true, if_false]
            exact waitsDrained_of_set hdrained hpeer hkeep rfl fun _ hwait => Or.inl hwait
          · simp only [Option.isNone_none, ne_eq, hzero, not_false_eq_true, decide_true,
              Bool.and_true, if_true]
            refine waitsDrained_of_set hdrained hpeer hkeep rfl ?_
            intro wait hwait
            rcases List.mem_append.mp hwait with hold | hnew
            · exact Or.inl hold
            · rw [List.mem_singleton.mp hnew]
              exact Or.inr ⟨rfl, Peer.drained_of_pollBuffer hpoll⟩

theorem waitsDrained_poll {run : ReceiveRun platform} (hdrained : run.WaitsDrained)
    {index : ℕ} {wait : ReceiveWait} {peer : Peer}
    (hpeer : run.peers[wait.position]? = some peer) (timeIsUp : Bool) :
    (run.poll index wait peer timeIsUp).WaitsDrained := by
  rw [poll]
  cases hpoll : peer.pollBuffer with
  | error fault =>
      exact waitsDrained_of_set hdrained hpeer id rfl fun _ hwait =>
        Or.inl (List.mem_of_mem_eraseIdx hwait)
  | ok polled =>
      obtain ⟨found, after⟩ := polled
      have hkeep := Peer.drained_of_drained hpoll
      simp only
      split
      · exact waitsDrained_of_set hdrained hpeer hkeep rfl fun _ hwait =>
          Or.inl (List.mem_of_mem_eraseIdx hwait)
      · exact waitsDrained_of_set hdrained hpeer hkeep rfl fun _ hwait => Or.inl hwait

/-- Peers have copies, so that nothing is pushed to a buffer on which a call waits. -/
theorem waitsDrained_step {run next : ReceiveRun platform} {event : Event}
    (hdrained : run.WaitsDrained) (hstep : step run event = some next) :
    next.WaitsDrained := by
  cases event with
  | advance seconds =>
      cases hstep
      exact hdrained
  | store id usage msg ep =>
      simp only [step, MessagePool.store_eq] at hstep
      cases hstep
      exact hdrained
  | refreshTick =>
      cases hstep
      exact hdrained
  | getPeer ep =>
      cases hstep
      intro wait hwait
      obtain ⟨peer, hpeer, hempty⟩ := hdrained wait hwait
      obtain ⟨hlt, -⟩ := List.getElem?_eq_some_iff.mp hpeer
      exact ⟨peer, (List.getElem?_append_left hlt).trans hpeer, hempty⟩
  | receive position timeout =>
      obtain ⟨peer, hpeer, rfl⟩ := Option.map_eq_some_iff.mp hstep
      exact waitsDrained_receive hdrained hpeer timeout
  | wake index =>
      obtain ⟨wait, hwait, hpolled⟩ := Option.bind_eq_some_iff.mp hstep
      obtain ⟨peer, hpeer, rfl⟩ := Option.map_eq_some_iff.mp hpolled
      exact waitsDrained_poll hdrained hpeer false
  | timeUp index =>
      obtain ⟨wait, hwait, hpassed⟩ := Option.bind_eq_some_iff.mp hstep
      obtain ⟨-, hpolled⟩ := Option.ite_none_right_eq_some.mp hpassed
      obtain ⟨peer, hpeer, rfl⟩ := Option.map_eq_some_iff.mp hpolled
      exact waitsDrained_poll hdrained hpeer true

/-! ## Calls that fault -/

/-- One more result. -/
theorem neverFaulted_append {run next : ReceiveRun platform} (hrun : run.NeverFaulted)
    {result : ReceiveResult} (hresults : next.results = run.results ++ [result]) :
    next.NeverFaulted ↔ result.isFault = false := by
  rw [NeverFaulted, hresults, List.forall_mem_append, List.forall_mem_singleton]
  exact and_iff_right hrun

/-- A call faults at once on a peer without a buffer, and with timeout `0` on one without a
message. -/
theorem neverFaulted_receive_iff {run : ReceiveRun platform} (hrun : run.NeverFaulted)
    (position : ℕ) (peer : Peer) (timeout : ℤ) :
    (run.receive position peer timeout).NeverFaulted ↔
      peer.buffer ≠ none ∧ (timeout = 0 → peer.queue ≠ []) := by
  rw [receive]
  cases hbuffer : peer.buffer with
  | none =>
      simp only [Peer.pollBuffer, hbuffer]
      rw [neverFaulted_append hrun rfl]
      simp [ReceiveResult.isFault]
  | some buffer =>
      have hqueue : peer.queue = buffer.msgQueue := by
        rw [Peer.queue, hbuffer]
        rfl
      simp only [Peer.pollBuffer, hbuffer, hqueue]
      cases hempty : buffer.msgQueue with
      | cons received rest =>
          have hpop : (buffer.pop 0 .none).1 = some received := by
            simp [PeerMessageBuffer.pop, hempty]
          simp only [hpop]
          rw [if_neg (by simp), neverFaulted_append hrun rfl]
          simp [Peer.makeResult, ReceiveResult.isFault]
      | nil =>
          have hpop : (buffer.pop 0 .none).1 = none := by
            simp [PeerMessageBuffer.pop, hempty]
          simp only [hpop]
          by_cases hzero : timeout = 0
          · rw [if_neg (by simp [hzero]), neverFaulted_append hrun rfl]
            simp [Peer.makeResult, ReceiveResult.isFault, hzero]
          · rw [if_pos (by simp [hzero])]
            simp only [hzero, ne_eq, false_implies, and_true]
            exact iff_of_true hrun (Option.some_ne_none buffer)

/-- A wait finds nothing, and faults when its time is up. -/
theorem neverFaulted_poll_iff {run : ReceiveRun platform} (hrun : run.NeverFaulted)
    {index : ℕ} {wait : ReceiveWait} {peer : Peer} (hdrained : peer.Drained)
    (timeIsUp : Bool) :
    (run.poll index wait peer timeIsUp).NeverFaulted ↔ timeIsUp = false := by
  rw [poll, Peer.pollBuffer_of_drained hdrained]
  cases timeIsUp with
  | false => exact iff_of_true hrun rfl
  | true =>
      simp only [Option.isSome_none, Bool.or_true, if_true]
      rw [neverFaulted_append hrun rfl]
      rfl

/-- The steps that make no call fault. -/
theorem neverFaulted_step_iff {run next : ReceiveRun platform} {event : Event}
    (hdrained : run.WaitsDrained) (hrun : run.NeverFaulted)
    (hstep : step run event = some next) : next.NeverFaulted ↔ run.Meets event := by
  cases event with
  | advance seconds =>
      cases hstep
      exact iff_of_true hrun trivial
  | store id usage msg ep =>
      simp only [step, MessagePool.store_eq] at hstep
      cases hstep
      exact iff_of_true hrun trivial
  | refreshTick =>
      cases hstep
      exact iff_of_true hrun trivial
  | getPeer ep =>
      cases hstep
      exact iff_of_true hrun trivial
  | receive position timeout =>
      obtain ⟨peer, hpeer, rfl⟩ := Option.map_eq_some_iff.mp hstep
      rw [neverFaulted_receive_iff hrun]
      constructor
      · intro hcall other hother
        rwa [← Option.some.inj (hpeer.symm.trans hother)]
      · exact fun hmeets => hmeets peer hpeer
  | wake index =>
      obtain ⟨wait, hwait, hpolled⟩ := Option.bind_eq_some_iff.mp hstep
      obtain ⟨peer, hpeer, rfl⟩ := Option.map_eq_some_iff.mp hpolled
      obtain ⟨other, hother, hempty⟩ := hdrained wait (List.mem_of_getElem? hwait)
      obtain rfl := Option.some.inj (hpeer.symm.trans hother)
      exact iff_of_true ((neverFaulted_poll_iff hrun hempty false).mpr rfl) trivial
  | timeUp index =>
      obtain ⟨wait, hwait, hlimit⟩ := Option.bind_eq_some_iff.mp hstep
      obtain ⟨hpassed, hpolled⟩ := Option.ite_none_right_eq_some.mp hlimit
      obtain ⟨peer, hpeer, rfl⟩ := Option.map_eq_some_iff.mp hpolled
      obtain ⟨other, hother, hempty⟩ := hdrained wait (List.mem_of_getElem? hwait)
      obtain rfl := Option.some.inj (hpeer.symm.trans hother)
      apply iff_of_false
      · rw [neverFaulted_poll_iff hrun hempty]
        exact Bool.noConfusion
      · intro hmeets
        rw [hmeets wait peer hwait hpeer] at hpassed
        cases hpassed

/-- No call faults in exactly the runs in which every call is made on a peer with a buffer,
with a message or a timeout other than `0`, and no wait reaches its limit. -/
theorem throughout_neverFaulted_iff (pool : MessagePool platform) (now : ℕ)
    (events : List Event) :
    Runs.Throughout step NeverFaulted (start pool now) events ↔
      Runs.Meets step Meets (start pool now) events := by
  apply Runs.throughout_iff_meets WaitsDrained
  · exact fun run event next hdrained hstep => waitsDrained_step hdrained hstep
  · intro run event next hdrained hrun hstep
    exact neverFaulted_step_iff hdrained hrun hstep
  · intro run event hstuck
    cases event with
    | receive position timeout =>
        intro peer hpeer
        simp [step, hpeer] at hstuck
    | timeUp index =>
        intro wait peer hwait hpeer
        simpa [step, hwait, hpeer] using hstuck
    | _ => trivial
  · exact fun wait hwait => absurd hwait List.not_mem_nil
  · exact fun result hresult => absurd hresult List.not_mem_nil

def arrival (id : Uuid) : Event := .store id 0 (.ofPart "chat" (.string "hello")) (nodeAt 2)

def emptyNode : ReceiveRun (hostPlatform []) := start .empty 0

/-- A peer that is made too early, an empty queue with timeout `0`, and a wait of five
seconds during which a message arrives. -/
theorem not_throughout_neverFaulted :
    ¬ Runs.Throughout step NeverFaulted emptyNode
        [.getPeer (nodeAt 2), arrival 1, .receive 0 (-1)] ∧
      ¬ Runs.Throughout step NeverFaulted emptyNode
        [arrival 1, .getPeer (nodeAt 2), .receive 0 0, .receive 0 0] ∧
      ¬ Runs.Throughout step NeverFaulted emptyNode
        [arrival 1, .getPeer (nodeAt 2), .receive 0 5, .receive 0 5, arrival 2, .wake 0,
          .advance 5, .timeUp 0] := by
  decide

end ReceiveRun

end SsP2p.Net

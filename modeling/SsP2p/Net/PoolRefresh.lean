import SsP2p.Core.HostPlatform
import SsP2p.Lib.Runs
import SsP2p.Net.Peer

/-!
# What the pool holds

Messages are stored and `refresh_tick` drops the expired ones, in any order.  Every
endpoint that has sent a message has one entry, with the messages of this endpoint that
had not expired at the last tick.  The bisection of `refresh_tick` finds them because the
queue is sorted by the time of receipt, which `push` keeps as long as the clock does not go
back.
-/

namespace SsP2p.Net

namespace MessagePool

variable {platform : Platform}

theorem mem_byReceivedAt (pool : KeyedList (PeerMessageBuffer.peerId platform))
    (pid : PeerId) :
    pid ∈ byReceivedAt pool ↔ pid ∈ pool.items.map (PeerMessageBuffer.peerId platform) :=
  ((List.perm_insertionSort _ pool.items).map _).mem_iff

theorem nodup_byReceivedAt (pool : KeyedList (PeerMessageBuffer.peerId platform)) :
    (byReceivedAt pool).Nodup :=
  ((List.perm_insertionSort _ pool.items).map _).nodup_iff.mpr pool.nodup

/-- A tick treats every entry by itself. -/
theorem find_refreshTick (pool : MessagePool platform) (now : ℕ) (pid : PeerId) :
    (pool.refreshTick now).pool.find pid = (pool.pool.find pid).map (·.expire now) := by
  have hfind := KeyedList.find_foldl_modify (·.expire now)
    (PeerMessageBuffer.peerId_expire platform now) (nodup_byReceivedAt pool.pool) pool.pool pid
  by_cases hmem : pid ∈ byReceivedAt pool.pool
  · rw [if_pos hmem] at hfind
    exact hfind
  · rw [if_neg hmem] at hfind
    rw [mem_byReceivedAt, ← KeyedList.find_eq_none_iff] at hmem
    rw [hmem, Option.map_none, ← hmem]
    exact hfind

theorem bindingEps_refreshTick (pool : MessagePool platform) (now : ℕ) :
    (pool.refreshTick now).pool.items.map PeerMessageBuffer.bindingEp =
      pool.pool.items.map PeerMessageBuffer.bindingEp :=
  KeyedList.map_items_foldl_modify PeerMessageBuffer.bindingEp (·.expire now) (fun _ => rfl)
    (PeerMessageBuffer.peerId_expire platform now) _ pool.pool

/-- Expiring one entry leaves the others alone. -/
theorem find_expireEntry_of_ne (now : ℕ)
    (pool : KeyedList (PeerMessageBuffer.peerId platform)) {pid other : PeerId}
    (hne : other ≠ pid) : (expireEntry now pool pid).find other = pool.find other := by
  rw [expireEntry, KeyedList.find_modify, if_neg hne]

/-- The entries after a message was stored belong to its endpoint or were there before. -/
theorem bindingEp_of_storeEntry {pool : KeyedList (PeerMessageBuffer.peerId platform)}
    {now : ℕ} {id : Uuid} {usage : UInt64} {msg : Message} {ep : Endpoint}
    {buffer : PeerMessageBuffer}
    (hbuffer : buffer ∈ (storeEntry pool now id usage msg ep).items) :
    buffer.bindingEp = ep ∨ ∃ old ∈ pool.items, old.bindingEp = buffer.bindingEp := by
  have hep := List.mem_map_of_mem (f := PeerMessageBuffer.bindingEp) hbuffer
  have hkept := KeyedList.map_items_modify PeerMessageBuffer.bindingEp (·.push now id msg)
    (fun _ => rfl) (PeerMessageBuffer.peerId_push platform now id msg) (allocate pool ep usage)
    (calcPeerId platform ep)
  rw [storeEntry, hkept] at hep
  obtain ⟨old, hold, heq⟩ := List.mem_map.mp hep
  rcases KeyedList.mem_items_insert hold with rfl | hold
  · exact Or.inl heq.symm
  · exact Or.inr ⟨old, hold, heq⟩

end MessagePool

/-- In a sorted queue, what has expired is dropped and nothing else. -/
theorem PeerMessageBuffer.msgQueue_expire {buffer : PeerMessageBuffer} (now : ℕ)
    (hsorted : buffer.msgQueue.Pairwise fun left right => left.time ≤ right.time) :
    (buffer.expire now).msgQueue =
      buffer.msgQueue.filter (compareReceivedAt (now - defaultMessageLifetimeM * 60)) := by
  rw [← UpperBound.drop_upperBound (pairwise_compareReceivedAt hsorted _)]
  rfl

/-- The pool of a node, with all messages stored so far and the time of the last tick. -/
structure PoolRefresh (platform : Platform) where
  pool : MessagePool platform
  now : ℕ
  stored : List (Endpoint × ReceivedMessage)
  refreshedAt : Option ℕ

namespace PoolRefresh

inductive Event where
  | advance (seconds : ℕ)
  | store (id : Uuid) (usage : UInt64) (msg : Message) (ep : Endpoint)
  | refreshTick

variable {platform : Platform}

/-- A node that has not received anything; its hub is not active. -/
def start (now : ℕ) : PoolRefresh platform := ⟨.empty, now, [], none⟩

def storedFor (refresh : PoolRefresh platform) (ep : Endpoint) : List ReceivedMessage :=
  (refresh.stored.filter fun entry => entry.1 = ep).map Prod.snd

/-- The message had not expired at the last tick. -/
def isLive (refresh : PoolRefresh platform) (received : ReceivedMessage) : Bool :=
  refresh.refreshedAt.all fun (time : ℕ) => decide ((time : ℤ) - 20 * 60 < received.time)

/-- One entry for every endpoint that has sent a message, with its live messages in the
order of their arrival. -/
structure Content (refresh : PoolRefresh platform) : Prop where
  nodup : (refresh.pool.pool.items.map PeerMessageBuffer.bindingEp).Nodup
  senders : ∀ ep, ep ∈ refresh.pool.pool.items.map PeerMessageBuffer.bindingEp ↔
    ep ∈ refresh.stored.map Prod.fst
  queue : ∀ buffer ∈ refresh.pool.pool.items,
    buffer.msgQueue = (refresh.storedFor buffer.bindingEp).filter refresh.isLive
  sorted : ∀ buffer ∈ refresh.pool.pool.items,
    buffer.msgQueue.Pairwise fun left right => left.time ≤ right.time

variable (eps : List Endpoint)

def step (refresh : PoolRefresh platform) : Event → Option (PoolRefresh platform)
  | .advance seconds => some { refresh with now := refresh.now + seconds }
  | .store id usage msg ep =>
      if ep ∈ eps then
        match refresh.pool.store refresh.now id usage msg ep with
        | .error _ => none
        | .ok pool => some
            { refresh with
              pool := pool
              stored := refresh.stored ++ [(ep, ⟨id, msg, refresh.now⟩)] }
      else none
  | .refreshTick => some
      { refresh with
        pool := refresh.pool.refreshTick refresh.now
        refreshedAt := some refresh.now }

/-! ## The clock -/

/-- Messages are stored in the order of their times, and nothing is ahead of the clock. -/
structure Clocked (refresh : PoolRefresh platform) : Prop where
  ordered : refresh.stored.Pairwise fun left right => left.2.time ≤ right.2.time
  past : ∀ entry ∈ refresh.stored, entry.2.time ≤ refresh.now
  refreshed : ∀ time ∈ refresh.refreshedAt, time ≤ refresh.now

/-- The entries by what is found for an endpoint. -/
structure Tracks (refresh : PoolRefresh platform) : Prop where
  clocked : Clocked refresh
  known : ∀ entry ∈ refresh.stored, entry.1 ∈ eps
  bound : ∀ buffer ∈ refresh.pool.pool.items,
    buffer.bindingEp ∈ refresh.stored.map Prod.fst
  found : ∀ ep ∈ refresh.stored.map Prod.fst, ∃ buffer,
    refresh.pool.pool.find (calcPeerId platform ep) = some buffer ∧
      buffer.bindingEp = ep ∧
      buffer.msgQueue = (refresh.storedFor ep).filter refresh.isLive

variable {eps} {refresh next : PoolRefresh platform}

theorem sorted_storedFor (hclocked : Clocked refresh) (ep : Endpoint) :
    (refresh.storedFor ep).Pairwise fun left right => left.time ≤ right.time := by
  rw [storedFor, List.pairwise_map]
  exact hclocked.ordered.filter _

/-- What arrives now is live. -/
theorem isLive_now (hclocked : Clocked refresh) {id : Uuid} {msg : Message} :
    refresh.isLive ⟨id, msg, refresh.now⟩ = true := by
  rw [isLive, Option.all_eq_true]
  intro time htime
  have hpast := hclocked.refreshed time htime
  apply decide_eq_true
  simp only
  omega

/-- What was not live at a tick is not live at a later one. -/
theorem filter_isLive_refresh (hclocked : Clocked refresh) (queue : List ReceivedMessage) :
    (queue.filter refresh.isLive).filter
        (PeerMessageBuffer.compareReceivedAt (refresh.now - defaultMessageLifetimeM * 60)) =
      queue.filter (isLive { refresh with refreshedAt := some refresh.now }) := by
  rw [List.filter_filter]
  apply List.filter_congr
  intro received hreceived
  rw [Bool.eq_iff_iff, Bool.and_eq_true, isLive, isLive, Option.all_eq_true, Option.all_some,
    PeerMessageBuffer.compareReceivedAt, decide_eq_true_iff, decide_eq_true_iff]
  constructor
  · intro hlive
    exact hlive.1
  · intro hlive
    refine ⟨hlive, ?_⟩
    intro time htime
    have hpast := hclocked.refreshed time htime
    rw [decide_eq_true_iff]
    omega

/-- What storing a message comes to. -/
theorem step_store {id : Uuid} {usage : UInt64} {msg : Message} {ep : Endpoint}
    (hstep : refresh.step eps (.store id usage msg ep) = some next) :
    ep ∈ eps ∧
      next.pool.pool =
        MessagePool.storeEntry refresh.pool.pool refresh.now id usage msg ep ∧
      next.now = refresh.now ∧
      next.stored = refresh.stored ++ [(ep, ⟨id, msg, refresh.now⟩)] ∧
      next.refreshedAt = refresh.refreshedAt := by
  rw [step] at hstep
  split at hstep
  · rename_i hep
    rw [MessagePool.store_eq] at hstep
    obtain rfl := Option.some.inj hstep
    exact ⟨hep, rfl, rfl, rfl, rfl⟩
  · cases hstep

theorem clocked_step {event : Event} (hclocked : Clocked refresh)
    (hstep : refresh.step eps event = some next) : Clocked next := by
  cases event with
  | advance seconds =>
      obtain rfl := Option.some.inj hstep
      refine ⟨hclocked.ordered, ?_, ?_⟩
      · intro entry hentry
        exact Nat.le_add_right_of_le (hclocked.past entry hentry)
      · intro time htime
        exact Nat.le_add_right_of_le (hclocked.refreshed time htime)
  | refreshTick =>
      obtain rfl := Option.some.inj hstep
      refine ⟨hclocked.ordered, hclocked.past, ?_⟩
      intro time htime
      rw [Option.mem_some.mp htime]
  | store id usage msg ep =>
      obtain ⟨-, -, hnow, hstored, hrefreshedAt⟩ := step_store hstep
      constructor
      · rw [hstored, List.pairwise_append]
        refine ⟨hclocked.ordered, List.pairwise_singleton _ _, ?_⟩
        intro entry hentry other hother
        rw [List.mem_singleton.mp hother]
        exact hclocked.past entry hentry
      · rw [hstored, hnow, List.forall_mem_append, List.forall_mem_singleton]
        exact ⟨hclocked.past, le_rfl⟩
      · rw [hrefreshedAt, hnow]
        exact hclocked.refreshed

/-! ## Every step keeps track -/

theorem tracks_start (now : ℕ) : Tracks eps (start now : PoolRefresh platform) where
  clocked := ⟨List.Pairwise.nil, fun _ hentry => absurd hentry List.not_mem_nil,
    fun _ htime => nomatch htime⟩
  known _ hentry := absurd hentry List.not_mem_nil
  bound _ hbuffer := absurd hbuffer List.not_mem_nil
  found _ hep := absurd hep List.not_mem_nil

theorem tracks_refreshTick (htracks : Tracks eps refresh)
    (hstep : refresh.step eps .refreshTick = some next) : Tracks eps next := by
  have hclocked := clocked_step htracks.clocked hstep
  obtain rfl := Option.some.inj hstep
  refine ⟨hclocked, htracks.known, ?_, ?_⟩
  · intro buffer hbuffer
    have hep := List.mem_map_of_mem (f := PeerMessageBuffer.bindingEp) hbuffer
    rw [MessagePool.bindingEps_refreshTick] at hep
    obtain ⟨old, hold, heq⟩ := List.mem_map.mp hep
    rw [← heq]
    exact htracks.bound old hold
  · intro ep hep
    obtain ⟨buffer, hfound, hbinding, hqueue⟩ := htracks.found ep hep
    have hsorted : buffer.msgQueue.Pairwise fun left right => left.time ≤ right.time := by
      rw [hqueue]
      exact (sorted_storedFor htracks.clocked ep).filter _
    refine ⟨buffer.expire refresh.now, ?_, hbinding, ?_⟩
    · rw [MessagePool.find_refreshTick, hfound, Option.map_some]
    · rw [PeerMessageBuffer.msgQueue_expire refresh.now hsorted, hqueue,
        filter_isLive_refresh htracks.clocked]
      rfl

theorem storedFor_of_stored {ep : Endpoint} {received : ReceivedMessage}
    (hstored : next.stored = refresh.stored ++ [(ep, received)]) (other : Endpoint) :
    next.storedFor other =
      refresh.storedFor other ++ if other = ep then [received] else [] := by
  rw [storedFor, storedFor, hstored]
  exact Peer.map_filter_stored refresh.stored ep other received

theorem isLive_of_refreshedAt (hrefreshedAt : next.refreshedAt = refresh.refreshedAt) :
    next.isLive = refresh.isLive := by
  funext received
  rw [isLive, isLive, hrefreshedAt]

theorem storedFor_eq_nil {ep : Endpoint} (hep : ep ∉ refresh.stored.map Prod.fst) :
    refresh.storedFor ep = [] := by
  rw [storedFor, List.map_eq_nil_iff, List.filter_eq_nil_iff]
  intro entry hentry heq
  apply hep
  rw [← of_decide_eq_true heq]
  exact List.mem_map_of_mem hentry

section Store

variable (hsha1 : ∀ ep ∈ eps, ∀ other ∈ eps,
  calcPeerId platform ep = calcPeerId platform other → ep = other)

include hsha1

/-- The entry that is found for an endpoint is its own. -/
theorem bindingEp_of_find (htracks : Tracks eps refresh) {ep : Endpoint} (hep : ep ∈ eps)
    {buffer : PeerMessageBuffer}
    (hfind : refresh.pool.pool.find (calcPeerId platform ep) = some buffer) :
    buffer.bindingEp = ep ∧ ep ∈ refresh.stored.map Prod.fst := by
  obtain ⟨hmem, hkey⟩ := KeyedList.find_eq_some_iff.mp hfind
  have hbound := htracks.bound buffer hmem
  obtain ⟨entry, hentry, heq⟩ := List.mem_map.mp hbound
  have hknown : buffer.bindingEp ∈ eps := heq ▸ htracks.known entry hentry
  have hsame := hsha1 buffer.bindingEp hknown ep hep hkey
  exact ⟨hsame, hsame ▸ hbound⟩

/-- The entry that a message is pushed to, with this message in it. -/
theorem found_push (htracks : Tracks eps refresh) {ep : Endpoint} (hep : ep ∈ eps)
    (id : Uuid) (usage : UInt64) (msg : Message) :
    let buffer := (refresh.pool.pool.find (calcPeerId platform ep)).getD (.make ep usage)
    (buffer.push refresh.now id msg).bindingEp = ep ∧
      (buffer.push refresh.now id msg).msgQueue =
        (refresh.storedFor ep).filter refresh.isLive ++ [⟨id, msg, refresh.now⟩] := by
  cases hfind : refresh.pool.pool.find (calcPeerId platform ep) with
  | none =>
      have hnotMem : ep ∉ refresh.stored.map Prod.fst := by
        intro hmem
        obtain ⟨buffer, hfound, -⟩ := htracks.found ep hmem
        rw [hfind] at hfound
        cases hfound
      rw [storedFor_eq_nil hnotMem]
      exact ⟨rfl, rfl⟩
  | some old =>
      obtain ⟨hbinding, hsent⟩ := bindingEp_of_find hsha1 htracks hep hfind
      obtain ⟨buffer, hfound, -, hqueue⟩ := htracks.found ep hsent
      rw [hfind] at hfound
      obtain rfl := Option.some.inj hfound
      rw [← hqueue]
      exact ⟨hbinding, rfl⟩

theorem tracks_store (htracks : Tracks eps refresh) {id : Uuid} {usage : UInt64}
    {msg : Message} {ep : Endpoint}
    (hstep : refresh.step eps (.store id usage msg ep) = some next) : Tracks eps next := by
  obtain ⟨hep, hpool, -, hstored, hrefreshedAt⟩ := step_store hstep
  refine ⟨clocked_step htracks.clocked hstep, ?_, ?_, ?_⟩
  · rw [hstored, List.forall_mem_append, List.forall_mem_singleton]
    exact ⟨htracks.known, hep⟩
  · intro buffer hbuffer
    rw [hpool] at hbuffer
    rw [hstored, List.map_append]
    rcases MessagePool.bindingEp_of_storeEntry hbuffer with heq | ⟨old, hold, heq⟩
    · exact List.mem_append_right _ (List.mem_singleton.mpr heq)
    · exact List.mem_append_left _ (heq ▸ htracks.bound old hold)
  · intro other hother
    rw [storedFor_of_stored hstored, isLive_of_refreshedAt hrefreshedAt, hpool,
      MessagePool.find_storeEntry, List.filter_append]
    by_cases hsame : other = ep
    · have hlive : refresh.isLive ⟨id, msg, refresh.now⟩ = true := isLive_now htracks.clocked
      rw [hsame, if_pos rfl, if_pos rfl, List.filter_cons_of_pos hlive, List.filter_nil]
      exact ⟨_, rfl, found_push hsha1 htracks hep id usage msg⟩
    · rw [hstored, List.map_append] at hother
      have hsent : other ∈ refresh.stored.map Prod.fst :=
        (List.mem_append.mp hother).resolve_right
          fun hnew => hsame (List.mem_singleton.mp hnew)
      obtain ⟨entry, hentry, heq⟩ := List.mem_map.mp hsent
      have hother : other ∈ eps := heq ▸ htracks.known entry hentry
      rw [if_neg (fun hkey => hsame (hsha1 other hother ep hep hkey)), if_neg hsame,
        List.filter_nil, List.append_nil]
      exact htracks.found other hsent

theorem tracks_step {event : Event} (htracks : Tracks eps refresh)
    (hstep : refresh.step eps event = some next) : Tracks eps next := by
  cases event with
  | advance seconds =>
      have hclocked := clocked_step htracks.clocked hstep
      obtain rfl := Option.some.inj hstep
      exact ⟨hclocked, htracks.known, htracks.bound, htracks.found⟩
  | store id usage msg ep => exact tracks_store hsha1 htracks hstep
  | refreshTick => exact tracks_refreshTick htracks hstep

end Store

/-! ## The content of the pool -/

theorem content_of_tracks (htracks : Tracks eps refresh) : Content refresh := by
  have hqueue : ∀ buffer ∈ refresh.pool.pool.items,
      buffer.msgQueue = (refresh.storedFor buffer.bindingEp).filter refresh.isLive := by
    intro buffer hbuffer
    obtain ⟨other, hfound, -, hqueue⟩ := htracks.found _ (htracks.bound buffer hbuffer)
    have hself : refresh.pool.pool.find (calcPeerId platform buffer.bindingEp) = some buffer :=
      KeyedList.find_eq_some_iff.mpr ⟨hbuffer, rfl⟩
    rw [hself] at hfound
    obtain rfl := Option.some.inj hfound
    exact hqueue
  constructor
  · have hkeys : ((refresh.pool.pool.items.map PeerMessageBuffer.bindingEp).map
        (calcPeerId platform)).Nodup := by
      rw [List.map_map]
      exact refresh.pool.pool.nodup
    exact hkeys.of_map
  · intro ep
    constructor
    · intro hep
      obtain ⟨buffer, hbuffer, heq⟩ := List.mem_map.mp hep
      exact heq ▸ htracks.bound buffer hbuffer
    · intro hep
      obtain ⟨buffer, hfound, hbinding, -⟩ := htracks.found ep hep
      rw [← hbinding]
      exact List.mem_map_of_mem (KeyedList.find_eq_some_iff.mp hfound).1
  · exact hqueue
  · intro buffer hbuffer
    rw [hqueue buffer hbuffer]
    exact (sorted_storedFor htracks.clocked _).filter _

/-- What holds of the pool in every run on the endpoints `eps`, and of every message that is
stored and every entry that expires. -/
structure PoolLaws (platform : Platform) (eps : List Endpoint) : Prop where
  content : ∀ now events,
    Runs.Throughout (step eps) Content (start now : PoolRefresh platform) events
  storedApart : ∀ (pool next : MessagePool platform) now id usage msg, ∀ ep ∈ eps,
    ∀ other ∈ eps, other ≠ ep → pool.store now id usage msg ep = .ok next →
      next.getPeerMessageBuffer (calcPeerId platform other) =
        pool.getPeerMessageBuffer (calcPeerId platform other)
  expiredApart : ∀ (pool : KeyedList (PeerMessageBuffer.peerId platform)) now, ∀ ep ∈ eps,
    ∀ other ∈ eps, other ≠ ep →
      (MessagePool.expireEntry now pool (calcPeerId platform ep)).find
        (calcPeerId platform other) = pool.find (calcPeerId platform other)
  refreshed : ∀ (pool : MessagePool platform) now pid,
    (pool.refreshTick now).getPeerMessageBuffer pid =
      (pool.getPeerMessageBuffer pid).map (·.expire now)

/-- The pool holds what was stored and has not expired, by endpoint. -/
theorem poolLaws (hsha1 : ∀ ep ∈ eps, ∀ other ∈ eps,
    calcPeerId platform ep = calcPeerId platform other → ep = other) :
    PoolLaws platform eps where
  content now events :=
    Runs.throughout_of_step (Tracks eps) (fun _ _ _ => tracks_step hsha1)
      (fun _ => content_of_tracks) (tracks_start now) events
  storedApart pool next now id usage msg ep hep other hother hne hstore := by
    rw [MessagePool.store_eq] at hstore
    obtain rfl := Except.ok.inj hstore
    rw [MessagePool.getPeerMessageBuffer, MessagePool.find_storeEntry]
    exact if_neg fun hkey => hne (hsha1 other hother ep hep hkey)
  expiredApart pool now ep hep other hother hne :=
    MessagePool.find_expireEntry_of_ne now pool
      fun hkey => hne (hsha1 other hother ep hep hkey)
  refreshed pool now pid := MessagePool.find_refreshTick pool now pid

theorem poolLaws_twoSenders : PoolLaws (hostPlatform []) [nodeAt 1, nodeAt 2] :=
  poolLaws (by decide +kernel)

end PoolRefresh

end SsP2p.Net

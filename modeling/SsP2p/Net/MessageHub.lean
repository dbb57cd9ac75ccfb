import SsP2p.Core.HostPlatform
import SsP2p.Lib.Runs
import SsP2p.Net.Peer

/-!
# The message hub

While the hub is active its handler should get every message that is stored, and take it
out of the pool.  `store` pops the message from a copy of the entry: the handler gets
every message once, and all of them stay in the pool.
-/

namespace SsP2p.Net

/-- The pool of a node, with all messages stored so far, and those among them that were
stored while the hub was active. -/
structure HubDelivery (platform : Platform) where
  pool : MessagePool platform
  now : ℕ
  stored : List (Endpoint × ReceivedMessage)
  watched : List (Endpoint × ReceivedMessage)

namespace HubDelivery

inductive Event where
  | advance (seconds : ℕ)
  | store (id : Uuid) (usage : UInt64) (msg : Message) (ep : Endpoint)
  | hubStart
  | hubStop

variable {platform : Platform}

def start (now : ℕ) : HubDelivery platform := ⟨.empty, now, [], []⟩

/-- Message ids are never drawn twice. -/
def step (delivery : HubDelivery platform) : Event → Option (HubDelivery platform)
  | .advance seconds => some { delivery with now := delivery.now + seconds }
  | .store id usage msg ep =>
      if id ∈ delivery.stored.map (·.2.id) then none
      else
        match delivery.pool.store delivery.now id usage msg ep with
        | .error _ => none
        | .ok pool => some
            { delivery with
              pool := pool
              stored := delivery.stored ++ [(ep, ⟨id, msg, delivery.now⟩)]
              watched := delivery.watched ++
                if delivery.pool.isActive then [(ep, ⟨id, msg, delivery.now⟩)] else [] }
  | .hubStart => some { delivery with pool := delivery.pool.hubStart }
  | .hubStop => some { delivery with pool := delivery.pool.hubStop }

/-- The messages in the buffer of an endpoint, as `receive` sees them. -/
def bufferOf (delivery : HubDelivery platform) (ep : Endpoint) : List ReceivedMessage :=
  (Peer.ofPool delivery.pool ep).queue

/-- The handler got the messages that were stored while the hub was active, once and in
order, and nothing else; none of them is left in the pool. -/
structure Consumed (delivery : HubDelivery platform) : Prop where
  handled : delivery.pool.handled =
    delivery.watched.map fun entry => SsMessage.make entry.2 entry.1
  removed : ∀ entry ∈ delivery.watched,
    entry.2.id ∉ (delivery.bufferOf entry.1).map ReceivedMessage.id

/-- No message is stored while the hub is active. -/
def StoredUnwatched (delivery : HubDelivery platform) : Event → Prop
  | .store id _ _ _ =>
      id ∉ delivery.stored.map (·.2.id) → delivery.pool.isActive = false
  | _ => True

instance decidableStoredUnwatched (delivery : HubDelivery platform) (event : Event) :
    Decidable (delivery.StoredUnwatched event) :=
  match event with
  | .store id _ _ _ => inferInstanceAs (Decidable
      (id ∉ delivery.stored.map (·.2.id) → delivery.pool.isActive = false))
  | .advance _ => .isTrue trivial
  | .hubStart => .isTrue trivial
  | .hubStop => .isTrue trivial

/-! ## What holds of every run -/

/-- Every message that is stored while the hub is active is handed to the handler, and
message ids are told apart. -/
structure Handed (delivery : HubDelivery platform) : Prop where
  handled : delivery.pool.handled =
    delivery.watched.map fun entry => SsMessage.make entry.2 entry.1
  watched : delivery.watched.Sublist delivery.stored
  distinct : (delivery.stored.map (·.2.id)).Nodup

variable {delivery next : HubDelivery platform}

theorem handed_start (now : ℕ) : Handed (start now : HubDelivery platform) :=
  ⟨rfl, List.Sublist.refl [], List.nodup_nil⟩

/-- What storing a message comes to. -/
theorem step_store {id : Uuid} {usage : UInt64} {msg : Message} {ep : Endpoint}
    (hstep : delivery.step (.store id usage msg ep) = some next) :
    id ∉ delivery.stored.map (·.2.id) ∧
      next.stored = delivery.stored ++ [(ep, ⟨id, msg, delivery.now⟩)] ∧
      next.watched = delivery.watched ++
        (if delivery.pool.isActive then [(ep, ⟨id, msg, delivery.now⟩)] else []) ∧
      next.pool.handled = delivery.pool.handled ++
        (if delivery.pool.isActive then [SsMessage.make ⟨id, msg, delivery.now⟩ ep]
          else []) ∧
      ∀ other, next.bufferOf other = delivery.bufferOf other ++
        if calcPeerId platform other = calcPeerId platform ep then
          [⟨id, msg, delivery.now⟩] else [] := by
  rw [step] at hstep
  split at hstep
  · cases hstep
  · rename_i hfresh
    rw [MessagePool.store_eq] at hstep
    obtain rfl := Option.some.inj hstep
    exact ⟨hfresh, rfl, rfl, rfl, fun other =>
      Peer.queue_ofPool_storeEntry delivery.pool delivery.now id usage msg ep other _ _⟩

theorem handed_step {event : Event} (hhanded : Handed delivery)
    (hstep : delivery.step event = some next) : Handed next := by
  cases event with
  | advance seconds =>
      obtain rfl := Option.some.inj hstep
      exact ⟨hhanded.handled, hhanded.watched, hhanded.distinct⟩
  | hubStart =>
      obtain rfl := Option.some.inj hstep
      exact ⟨hhanded.handled, hhanded.watched, hhanded.distinct⟩
  | hubStop =>
      obtain rfl := Option.some.inj hstep
      exact ⟨hhanded.handled, hhanded.watched, hhanded.distinct⟩
  | store id usage msg ep =>
      obtain ⟨hfresh, hstored, hwatched, hhandled, -⟩ := step_store hstep
      constructor
      · rw [hhandled, hwatched, hhanded.handled, List.map_append]
        cases delivery.pool.isActive with
        | true => rfl
        | false => rfl
      · rw [hwatched, hstored]
        apply List.Sublist.append hhanded.watched
        cases delivery.pool.isActive with
        | true => exact List.Sublist.refl _
        | false => exact List.nil_sublist _
      · rw [hstored, List.map_append, List.map_singleton, ← List.concat_eq_append]
        exact hhanded.distinct.concat hfresh

/-- The handler of the hub gets what is stored while the hub is active, once and in order,
in every run. -/
theorem handed_of_run {now : ℕ} {events : List Event}
    (hrun : Runs.execute step (start now : HubDelivery platform) events = some delivery) :
    Handed delivery :=
  Runs.invariant_of_step Handed (fun _ _ _ => handed_step) (handed_start now) hrun

/-! ## What stays in the pool -/

theorem consumed_of_buffers (hhanded : Handed next) (hconsumed : delivery.Consumed)
    (hwatched : next.watched = delivery.watched)
    (hbuffers : ∀ ep, next.bufferOf ep = delivery.bufferOf ep) : next.Consumed := by
  refine ⟨hhanded.handled, ?_⟩
  intro entry hentry
  rw [hbuffers]
  exact hconsumed.removed entry (hwatched ▸ hentry)

/-- Storing a message keeps the property exactly while the hub is not active. -/
theorem consumed_store_iff (hhanded : Handed delivery) (hconsumed : delivery.Consumed)
    {id : Uuid} {usage : UInt64} {msg : Message} {ep : Endpoint}
    (hstep : delivery.step (.store id usage msg ep) = some next) :
    next.Consumed ↔ delivery.pool.isActive = false := by
  obtain ⟨hfresh, hstored, hwatched, hhandled, hbuffers⟩ := step_store hstep
  constructor
  · intro hnext
    rw [← Bool.not_eq_true]
    intro hactive
    rw [if_pos hactive] at hwatched
    have hmem : (ep, ⟨id, msg, delivery.now⟩) ∈ next.watched := by
      rw [hwatched]
      exact List.mem_append_right _ (List.mem_singleton_self _)
    apply hnext.removed _ hmem
    rw [hbuffers, if_pos rfl, List.map_append]
    exact List.mem_append_right _ (List.mem_singleton_self _)
  · intro hinactive
    rw [hinactive, if_neg Bool.false_ne_true, List.append_nil] at hwatched
    refine ⟨(handed_step hhanded hstep).handled, ?_⟩
    intro entry hentry hmem
    rw [hwatched] at hentry
    rw [hbuffers, List.map_append] at hmem
    rcases List.mem_append.mp hmem with hold | hnew
    · exact hconsumed.removed entry hentry hold
    · split at hnew
      · apply hfresh
        have hid : entry.2.id = id := List.mem_singleton.mp hnew
        rw [← hid]
        exact List.mem_map_of_mem (hhanded.watched.subset hentry)
      · cases hnew

/-- The hub takes what its handler gets out of the pool throughout exactly those runs in
which nothing is stored while it is active. -/
theorem throughout_consumed_iff (now : ℕ) (events : List Event) :
    Runs.Throughout step Consumed (start now : HubDelivery platform) events ↔
      Runs.Meets step StoredUnwatched (start now : HubDelivery platform) events := by
  apply Runs.throughout_iff_meets Handed
  · intro delivery event next
    exact handed_step
  · intro delivery event next hhanded hconsumed hstep
    have hnext := handed_step hhanded hstep
    cases event with
    | store id usage msg ep =>
        rw [consumed_store_iff hhanded hconsumed hstep, StoredUnwatched]
        obtain ⟨hfresh, -⟩ := step_store hstep
        exact ⟨fun hinactive _ => hinactive, fun hcondition => hcondition hfresh⟩
    | advance seconds =>
        obtain rfl := Option.some.inj hstep
        exact iff_of_true (consumed_of_buffers hnext hconsumed rfl fun _ => rfl) trivial
    | hubStart =>
        obtain rfl := Option.some.inj hstep
        exact iff_of_true (consumed_of_buffers hnext hconsumed rfl fun _ => rfl) trivial
    | hubStop =>
        obtain rfl := Option.some.inj hstep
        exact iff_of_true (consumed_of_buffers hnext hconsumed rfl fun _ => rfl) trivial
  · intro delivery event hstuck
    cases event with
    | store id usage msg ep =>
        intro hfresh
        rw [step, if_neg hfresh, MessagePool.store_eq] at hstuck
        cases hstuck
    | _ => trivial
  · exact handed_start now
  · exact ⟨rfl, fun entry hentry => absurd hentry List.not_mem_nil⟩

/-- `10.0.0.2` sends one message while the hub is active: the handler gets it, and the next
`receive` would return it again. -/
theorem not_throughout_consumed_watched :
    ¬ Runs.Throughout step Consumed (start 0 : HubDelivery (hostPlatform []))
      [.hubStart, .store 1 0 ⟨[("messenger", .string "first")]⟩ (nodeAt 2)] := by
  intro hthroughout
  have hleft : ((Runs.execute step (start 0 : HubDelivery (hostPlatform []))
      [.hubStart, .store 1 0 ⟨[("messenger", .string "first")]⟩ (nodeAt 2)]).map
        fun delivery => (delivery.watched.map fun entry =>
          decide (entry.2.id ∈ (delivery.bufferOf entry.1).map ReceivedMessage.id))) =
      some [true] := by
    decide +kernel
  obtain ⟨delivery, hrun, hleft⟩ := Option.map_eq_some_iff.mp hleft
  obtain ⟨entry, hwatched, hmem⟩ := List.map_eq_singleton_iff.mp hleft
  have hconsumed := Runs.last_of_throughout hthroughout hrun
  apply hconsumed.removed entry
  · rw [hwatched]
    exact List.mem_singleton_self entry
  · exact of_decide_eq_true hmem

end HubDelivery

end SsP2p.Net

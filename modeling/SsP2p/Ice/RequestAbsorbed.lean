import SsP2p.Ice.IceLoop

/-!
# Requests that arrive again

A node that relays or answers a signaling request stores an observer for it, which
is to absorb the copies that arrive over other paths.  An observer absorbs the
messages with its own id, and that is drawn anew for each observer.
-/

namespace SsP2p.Ice

open Kademlia

namespace IceMessage

instance (platform : Platform) (iceMsg : IceMessage) :
    Decidable (iceMsg.IsRequest platform) :=
  inferInstanceAs (Decidable (_ ∨ _))

end IceMessage

namespace IceObserverStrage

/-- The mark that absorbs the messages with this id. -/
def absorber (strage : IceObserverStrage) (obsId : Uuid) : Option (MarkKind × Uuid) :=
  match strage.signalingReceiver obsId with
  | .relay obs => some (.relay, obs.id)
  | .response obs => some (.response, obs.id)
  | .request _ | .server => none

/-- The observer of a handled request is still stored. -/
def holds (strage : IceObserverStrage) (handled : Handled) : Bool :=
  match handled.kind with
  | .relay => (strage.relays.find handled.obsId).isSome
  | .response => (strage.responses.find handled.obsId).isSome

/-- An absorber has the id of the messages that it absorbs. -/
theorem id_of_absorber {strage : IceObserverStrage} {obsId : Uuid}
    {absorber : MarkKind × Uuid} (habsorber : strage.absorber obsId = some absorber) :
    absorber.2 = obsId := by
  rw [IceObserverStrage.absorber, signalingReceiver] at habsorber
  cases hrelay : strage.relays.find obsId with
  | some obs =>
      simp only [hrelay, Option.some.injEq] at habsorber
      have hid : obs.id = obsId := KeyedList.key_of_find hrelay
      rw [← habsorber, hid]
  | none =>
      cases hrequest : strage.requests.find obsId with
      | some obs => simp [hrelay, hrequest] at habsorber
      | none =>
          cases hresponse : strage.responses.find obsId with
          | some obs =>
              simp only [hrelay, hrequest, hresponse, Option.some.injEq] at habsorber
              have hid : obs.id = obsId := KeyedList.key_of_find hresponse
              rw [← habsorber, hid]
          | none => simp [hrelay, hrequest, hresponse] at habsorber

/-- No two observers of different kinds share an id that a response has. -/
def Exclusive (strage : IceObserverStrage) (id : Uuid) : Prop :=
  (strage.responses.find id).isSome = true →
    strage.relays.find id = none ∧ strage.requests.find id = none

theorem absorber_of_holds {strage : IceObserverStrage} {handled : Handled}
    (hexclusive : strage.Exclusive handled.obsId) (hholds : strage.holds handled = true) :
    strage.absorber handled.obsId = some (handled.kind, handled.obsId) := by
  rw [holds] at hholds
  cases hkind : handled.kind with
  | relay =>
      rw [hkind] at hholds
      obtain ⟨obs, hfind⟩ := Option.isSome_iff_exists.mp hholds
      simp only [absorber, signalingReceiver, hfind]
      rw [KeyedList.key_of_find hfind]
  | response =>
      rw [hkind] at hholds
      obtain ⟨hrelay, hrequest⟩ := hexclusive hholds
      obtain ⟨obs, hfind⟩ := Option.isSome_iff_exists.mp hholds
      simp only [absorber, signalingReceiver, hrelay, hrequest, hfind]
      rw [KeyedList.key_of_find hfind]

end IceObserverStrage

namespace IceLoop

variable (platform : Platform)

/-- The request that an event is a further copy of, with the observers that are stored
for it. -/
def repeated (loop : IceLoop) : Event → List Handled
  | .receive _ msg _ =>
      match IceMessage.ofProtocol platform .signaling msg with
      | none => []
      | some (iceMsg, obsId) =>
          if iceMsg.IsRequest platform then
            loop.history.handled.filter fun handled =>
              decide (handled.msgId = obsId) && loop.strage.holds handled
          else []
  | _ => []

/-- A further copy of a request is absorbed by the observer that is stored for it, and
nothing is sent. -/
def AbsorbsRepeats (loop : IceLoop) (event : Event) : Prop :=
  ∀ handled ∈ loop.repeated platform event,
    loop.strage.absorber handled.msgId = some (handled.kind, handled.obsId) ∧
      (loop.step platform event).all
        (fun next => decide (next.io.sent.length = loop.io.sent.length)) = true

/-- The observer that is stored for a request that arrives again carries the id of the
request. -/
def StoredUnderOwnId (loop : IceLoop) (event : Event) : Prop :=
  ∀ handled ∈ loop.repeated platform event, handled.obsId = handled.msgId

instance (loop : IceLoop) (event : Event) :
    Decidable (loop.AbsorbsRepeats platform event) :=
  inferInstanceAs (Decidable (∀ handled ∈ _, _))

/-! ## The ids of the observers -/

/-- An id names one observer, and none before it is drawn. -/
structure NamedOnce (loop : IceLoop) (id : Uuid) : Prop where
  exclusive : loop.strage.Exclusive id
  unused : id ∉ loop.issued → loop.strage.relays.find id = none ∧
    loop.strage.requests.find id = none ∧ loop.strage.responses.find id = none

/-- A step that stores no new observer. -/
structure Fewer (loop next : IceLoop) (id : Uuid) : Prop where
  relays : loop.strage.relays.find id = none → next.strage.relays.find id = none
  requests : loop.strage.requests.find id = none → next.strage.requests.find id = none
  responses : loop.strage.responses.find id = none → next.strage.responses.find id = none
  issued : id ∉ next.issued → id ∉ loop.issued

theorem NamedOnce.fewer {loop next : IceLoop} {id : Uuid} (hnamed : loop.NamedOnce id)
    (hfewer : Fewer loop next id) : next.NamedOnce id where
  exclusive hresponse := by
    have hstored : (loop.strage.responses.find id).isSome = true := by
      rw [Option.isSome_iff_ne_none] at hresponse ⊢
      exact fun hnone => hresponse (hfewer.responses hnone)
    obtain ⟨hrelay, hrequest⟩ := hnamed.exclusive hstored
    exact ⟨hfewer.relays hrelay, hfewer.requests hrequest⟩
  unused hissued := by
    obtain ⟨hrelay, hrequest, hresponse⟩ := hnamed.unused (hfewer.issued hissued)
    exact ⟨hfewer.relays hrelay, hfewer.requests hrequest, hfewer.responses hresponse⟩

theorem fewer_of_eq {loop next : IceLoop} {id : Uuid}
    (hrelays : next.strage.relays = loop.strage.relays)
    (hrequests : next.strage.requests = loop.strage.requests)
    (hresponses : next.strage.responses = loop.strage.responses)
    (hissued : id ∉ next.issued → id ∉ loop.issued) : Fewer loop next id where
  relays := by
    rw [hrelays]
    exact fun h => h
  requests := by
    rw [hrequests]
    exact fun h => h
  responses := by
    rw [hresponses]
    exact fun h => h
  issued := hissued

/-- A step that stores one observer, of one kind, under the id that it draws. -/
theorem namedOnce_of_drawn {loop next : IceLoop} {drawn id : Uuid}
    (hnamed : loop.NamedOnce id) (hfresh : drawn ∉ loop.issued)
    (hissued : next.issued = drawn :: loop.issued)
    (hothers : id ≠ drawn → Fewer loop next id)
    (hkinds : next.strage.responses.find drawn = none ∨
      next.strage.relays = loop.strage.relays ∧
        next.strage.requests = loop.strage.requests) : next.NamedOnce id := by
  by_cases hid : id = drawn
  · subst hid
    obtain ⟨hrelay, hrequest, -⟩ := hnamed.unused hfresh
    refine ⟨?_, ?_⟩
    · intro hresponse
      cases hkinds with
      | inl hnone =>
          rw [hnone] at hresponse
          cases hresponse
      | inr hsame => exact ⟨hsame.1 ▸ hrelay, hsame.2 ▸ hrequest⟩
    · rw [hissued]
      exact fun hnot => absurd List.mem_cons_self hnot
  · exact hnamed.fewer (hothers hid)

variable {platform}

theorem namedOnce_signalingSend {loop : IceLoop} {drawn : Uuid}
    (hfresh : drawn ∉ loop.issued) (destEp : Endpoint) (rootParam : String) (payload : Json)
    (hnamed : ∀ id, loop.NamedOnce id) (id : Uuid) :
    (loop.signalingSend platform drawn destEp rootParam payload).NamedOnce id := by
  have hissued : id ∉ drawn :: loop.issued → id ∉ loop.issued := fun hnot hmem =>
    hnot (List.mem_cons_of_mem drawn hmem)
  rw [signalingSend, SignalingServer.signalingSend]
  split_ifs
  · exact (hnamed id).fewer (fewer_of_eq rfl rfl rfl hissued)
  · apply namedOnce_of_drawn (hnamed id) hfresh rfl
    · intro hid
      refine ⟨fun h => h, ?_, fun h => h, hissued⟩
      have hother : (SignalingRequest.make drawn loop.io.now destEp rootParam payload).id ≠ id :=
        hid.symm
      exact fun hnone => (KeyedList.find_insert_of_ne loop.strage.requests hother).trans hnone
    · exact Or.inl ((hnamed drawn).unused hfresh).2.2

theorem namedOnce_receive {loop next : IceLoop} {drawn : Uuid} {msg : Message}
    {ep : Endpoint} (hfresh : drawn ∉ loop.issued)
    (hreceive : loop.receive platform drawn msg ep = some next)
    (hnamed : ∀ id, loop.NamedOnce id) (id : Uuid) : next.NamedOnce id := by
  obtain ⟨result, hincome, rfl⟩ := receive_eq_some hreceive
  have hissued : id ∉ (loop.received platform drawn msg ep result).issued →
      id ∉ loop.issued := fun hnot hmem => hnot (List.mem_cons_of_mem drawn hmem)
  cases hincome with
  | relay iceMsg obsId obs hsignaling hreceiver =>
      exact (hnamed id).fewer
        ⟨fun h => KeyedList.find_modify_of_none h _ _
          (SignalingMark.id_extended loop.io.now), fun h => h, fun h => h, hissued⟩
  | response iceMsg obsId obs hsignaling hreceiver =>
      exact (hnamed id).fewer
        ⟨fun h => h, fun h => h, fun h => KeyedList.find_modify_of_none h _ _
          (SignalingMark.id_extended loop.io.now), hissued⟩
  | server iceMsg obsId result hsignaling hreceiver hserver =>
      obtain ⟨strage, nextIo⟩ := result
      have hother : id ≠ drawn → (SignalingMark.make drawn loop.io.now).id ≠ id := Ne.symm
      rcases SignalingServer.strage_of_incomeMessage hserver with hsame | hrelay | hresponse
      · obtain rfl : strage = loop.strage := hsame
        exact (hnamed id).fewer (fewer_of_eq rfl rfl rfl hissued)
      · obtain rfl : strage = loop.strage.addRelay (.make drawn loop.io.now) := hrelay
        apply namedOnce_of_drawn (hnamed id) hfresh rfl
        · intro hid
          refine ⟨?_, fun h => h, fun h => h, hissued⟩
          exact fun hnone =>
            (KeyedList.find_insert_of_ne loop.strage.relays (hother hid)).trans hnone
        · exact Or.inl ((hnamed drawn).unused hfresh).2.2
      · obtain rfl : strage = loop.strage.addResponse (.make drawn loop.io.now) := hresponse
        apply namedOnce_of_drawn (hnamed id) hfresh rfl
        · intro hid
          refine ⟨fun h => h, fun h => h, ?_, hissued⟩
          exact fun hnone =>
            (KeyedList.find_insert_of_ne loop.strage.responses (hother hid)).trans hnone
        · exact Or.inr ⟨rfl, rfl⟩
  | other hsignaling hstun => exact (hnamed id).fewer (fewer_of_eq rfl rfl rfl hissued)
  | request iceMsg obsId obs nextIo hsignaling hreceiver hrequest =>
      exact (hnamed id).fewer (fewer_of_eq rfl rfl rfl hissued)
  | reply iceMsg obsId obs globalEp hstun hfind hglobalEp =>
      exact (hnamed id).fewer (fewer_of_eq rfl rfl rfl hissued)
  | stun iceMsg obsId nextIo hstun hfind hserver =>
      exact (hnamed id).fewer (fewer_of_eq rfl rfl rfl hissued)

theorem fewer_runCallback {loop next : IceLoop} {callback : Callback}
    (hrun : loop.runCallback platform callback = some next) (id : Uuid) :
    Fewer loop next id := by
  cases ran_of_runCallback hrun with
  | bindingTimeout obs hfind => exact fewer_of_eq rfl rfl rfl fun h => h
  | srHandler obsId ep => cases ep <;> exact fewer_of_eq rfl rfl rfl fun h => h
  | traversalDone obs hfind =>
      exact ⟨fun h => h, fun h => KeyedList.find_modify_of_none h _ _
        SignalingRequest.id_traversalDone, fun h => h, fun h => h⟩

theorem namedOnce_step {loop next : IceLoop} {event : Event}
    (hstep : loop.step platform event = some next) (hnamed : ∀ id, loop.NamedOnce id)
    (id : Uuid) : next.NamedOnce id := by
  cases event with
  | receive drawn msg ep =>
      obtain ⟨hissued, hreceive⟩ := of_step_receive hstep
      exact namedOnce_receive hissued hreceive hnamed id
  | signalingSend drawn destEp rootParam payload =>
      obtain ⟨hissued, rfl⟩ := of_step_signalingSend hstep
      exact namedOnce_signalingSend hissued destEp rootParam payload hnamed id
  | bindingRequest drawn targetNodes reliability isAsync =>
      obtain ⟨-, rfl⟩ := of_step_bindingRequest hstep
      obtain ⟨hkept, -, hdrawn⟩ :=
        loop.keeps_bindingRequest platform drawn targetNodes reliability isAsync
      apply (hnamed id).fewer (fewer_of_eq hkept.relays hkept.requests hkept.responses _)
      rw [hdrawn]
      exact fun hnot hmem => hnot (List.mem_cons_of_mem drawn hmem)
  | updateGlobalSelfEndpoint ep =>
      obtain rfl := Option.some.inj hstep
      exact (hnamed id).fewer (fewer_of_eq rfl rfl rfl fun h => h)
  | setTable table =>
      obtain rfl := Option.some.inj hstep
      exact (hnamed id).fewer (fewer_of_eq rfl rfl rfl fun h => h)
  | refreshTick =>
      obtain rfl := Option.some.inj hstep
      exact (hnamed id).fewer ⟨fun h => KeyedList.find_filter_of_none _ h,
        fun h => KeyedList.find_filter_of_none _ h,
        fun h => KeyedList.find_filter_of_none _ h, fun h => h⟩
  | advance seconds =>
      obtain rfl := Option.some.inj hstep
      exact (hnamed id).fewer (fewer_of_eq rfl rfl rfl fun h => h)
  | expire position =>
      obtain ⟨io, hexpire, rfl⟩ := Option.map_eq_some_iff.mp hstep
      exact (hnamed id).fewer (fewer_of_eq rfl rfl rfl fun h => h)
  | run position =>
      obtain ⟨⟨callback, io⟩, htake, hrun⟩ := Option.bind_eq_some_iff.mp hstep
      have hlogged : (({ loop with io := io } : IceLoop).log callback).NamedOnce id :=
        (hnamed id).fewer (fewer_of_eq rfl rfl rfl fun h => h)
      exact hlogged.fewer (fewer_runCallback hrun id)

theorem namedOnce_start (selfEp : Endpoint) (table : KRoutingTable) (now : ℕ) (id : Uuid) :
    (start selfEp table now).NamedOnce id where
  exclusive hresponse := nomatch hresponse
  unused _ := ⟨rfl, rfl, rfl⟩

/-! ## Runs -/

theorem mem_repeated {loop : IceLoop} {event : Event} {handled : Handled}
    (hrepeated : handled ∈ loop.repeated platform event) :
    ∃ drawn msg ep iceMsg, event = .receive drawn msg ep ∧
      IceMessage.ofProtocol platform .signaling msg = some (iceMsg, handled.msgId) ∧
      loop.strage.holds handled = true := by
  cases event with
  | receive drawn msg ep =>
      cases hsignaling : IceMessage.ofProtocol platform .signaling msg with
      | none => simp [repeated, hsignaling] at hrepeated
      | some found =>
          obtain ⟨iceMsg, obsId⟩ := found
          simp only [repeated, hsignaling] at hrepeated
          split_ifs at hrepeated
          · simp only [List.mem_filter, Bool.and_eq_true, decide_eq_true_eq] at hrepeated
            obtain ⟨-, rfl, hholds⟩ := hrepeated
            exact ⟨drawn, msg, ep, iceMsg, rfl, hsignaling, hholds⟩
          · cases hrepeated
  | _ => cases hrepeated

/-- A message that a mark absorbs hands nothing to the event loop. -/
theorem io_of_absorber {loop next : IceLoop} {drawn : Uuid} {msg : Message} {ep : Endpoint}
    {iceMsg : IceMessage} {obsId : Uuid} {absorber : MarkKind × Uuid}
    (hsignaling : IceMessage.ofProtocol platform .signaling msg = some (iceMsg, obsId))
    (habsorber : loop.strage.absorber obsId = some absorber)
    (hreceive : loop.receive platform drawn msg ep = some next) : next.io = loop.io := by
  obtain ⟨result, hincome, rfl⟩ := receive_eq_some hreceive
  have hsame : ∀ {other : IceMessage} {otherId : Uuid},
      IceMessage.ofProtocol platform .signaling msg = some (other, otherId) →
        otherId = obsId := by
    intro other otherId hother
    exact (Prod.mk.inj (Option.some.inj (hsignaling.symm.trans hother))).2.symm
  cases hincome with
  | relay _ _ _ _ _ => rfl
  | response _ _ _ _ _ => rfl
  | other hnone _ => rfl
  | request _ otherId obs nextIo hother hreceiver _ =>
      obtain rfl := hsame hother
      rw [IceObserverStrage.absorber,
        show loop.strage.signalingReceiver otherId = .request obs from hreceiver] at habsorber
      cases habsorber
  | server _ otherId result hother hreceiver _ =>
      obtain rfl := hsame hother
      rw [IceObserverStrage.absorber,
        show loop.strage.signalingReceiver otherId = .server from hreceiver] at habsorber
      cases habsorber
  | reply _ _ _ _ hstun _ _ =>
      rw [IceMessage.ofProtocol_signaling_of_stun hstun] at hsignaling
      cases hsignaling
  | stun _ _ _ hstun _ _ =>
      rw [IceMessage.ofProtocol_signaling_of_stun hstun] at hsignaling
      cases hsignaling

/-- Where ids name one observer, a further copy is absorbed exactly if the observer stored
for the request has the id of the request. -/
theorem absorbsRepeats_iff {loop : IceLoop} (hnamed : ∀ id, loop.NamedOnce id)
    (event : Event) :
    loop.AbsorbsRepeats platform event ↔ loop.StoredUnderOwnId platform event := by
  constructor
  · intro habsorbs handled hrepeated
    exact IceObserverStrage.id_of_absorber (habsorbs handled hrepeated).1
  · intro hown handled hrepeated
    obtain ⟨drawn, msg, ep, iceMsg, rfl, hsignaling, hholds⟩ := mem_repeated hrepeated
    have habsorber := IceObserverStrage.absorber_of_holds (hnamed handled.obsId).exclusive
      hholds
    rw [hown handled hrepeated] at habsorber ⊢
    refine ⟨habsorber, ?_⟩
    rw [Option.all_eq_true]
    intro next hnext
    rw [step] at hnext
    split_ifs at hnext
    rw [io_of_absorber hsignaling habsorber hnext]
    exact decide_eq_true rfl

def requestToDest : Message :=
  let platform := hostPlatform []
  .ofPart "ice_agent" ((SignalingRequest.make 7 0 (nodeAt 5) "chat"
    (.string "hello")).requestMessage platform (nodeAt 1)).encode

end IceLoop

end SsP2p.Ice

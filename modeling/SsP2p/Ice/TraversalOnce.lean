import SsP2p.Ice.IceLoop

/-!
# The message of a signaling request

A `signaling_request` sends its cached message when a response, or the request
itself, arrives.  It knows that the message was sent when the send has completed,
and answers every triggering message until then by sending it again.
-/

namespace SsP2p.Ice

open Kademlia

namespace IceLoop

/-- How often a `signaling_request` has handed its cached message to the socket; every time
`on_traversal_done` of the observer is the completion handler. -/
def transmissions (loop : IceLoop) (id : Uuid) : ℕ :=
  loop.handed.count (.traversalDone id)

/-- The `signaling_request` that an event is a triggering message for. -/
def triggered (platform : Platform) (loop : IceLoop) : Event → Option SignalingRequest
  | .receive drawn msg _ =>
      if drawn ∈ loop.issued then none
      else
        match IceMessage.ofProtocol platform .signaling msg with
        | none => none
        | some (iceMsg, obsId) =>
            match loop.strage.signalingReceiver obsId with
            | .request obs =>
                if obs.done = false ∧
                    SignalingRequest.Triggers platform loop.agent.selfEp iceMsg then
                  some obs
                else none
            | _ => none
  | _ => none

/-- No triggering message arrives between a transmission and the run of its completion
handler. -/
def AwaitsDone (platform : Platform) (id : Uuid) (loop : IceLoop) (event : Event) : Prop :=
  (loop.triggered platform event).map SignalingRequest.id = some id →
    .traversalDone id ∉ loop.io.pending

instance (platform : Platform) (id : Uuid) (loop : IceLoop) (event : Event) :
    Decidable (loop.AwaitsDone platform id event) :=
  inferInstanceAs (Decidable (_ → _))

/-! ## The invariant -/

/-- An observer is done when its completion handler was run; an id that was never drawn
has left no trace. -/
structure DoneAt (loop : IceLoop) (id : Uuid) : Prop where
  done : ∀ obs, loop.strage.requests.find id = some obs →
    (obs.done = true ↔ .traversalDone id ∈ loop.history.ran)
  unused : id ∉ loop.issued → loop.strage.requests.find id = none ∧
    .traversalDone id ∉ loop.history.ran

/-- A step that at most deletes the observer. -/
structure Leaves (loop next : IceLoop) (id : Uuid) : Prop where
  requests : ∀ obs, next.strage.requests.find id = some obs →
    loop.strage.requests.find id = some obs
  ran : .traversalDone id ∈ next.history.ran ↔ .traversalDone id ∈ loop.history.ran
  issued : id ∉ next.issued → id ∉ loop.issued

theorem DoneAt.leaves {loop next : IceLoop} {id : Uuid} (hdoneAt : loop.DoneAt id)
    (hleaves : Leaves loop next id) : next.DoneAt id where
  done obs hfind := by
    rw [hleaves.ran]
    exact hdoneAt.done obs (hleaves.requests obs hfind)
  unused hissued := by
    obtain ⟨hfind, hran⟩ := hdoneAt.unused (hleaves.issued hissued)
    refine ⟨?_, hleaves.ran.not.mpr hran⟩
    rw [Option.eq_none_iff_forall_ne_some]
    intro obs hobs
    rw [hleaves.requests obs hobs] at hfind
    cases hfind

theorem leaves_of_eq {loop next : IceLoop} {id : Uuid}
    (hrequests : next.strage.requests = loop.strage.requests)
    (hran : next.history.ran = loop.history.ran)
    (hissued : id ∉ next.issued → id ∉ loop.issued) : Leaves loop next id where
  requests obs hfind := hrequests ▸ hfind
  ran := by rw [hran]
  issued := hissued

theorem transmissions_of_handed_eq {loop next : IceLoop}
    (hhanded : next.handed = loop.handed) (id : Uuid) :
    next.transmissions id = loop.transmissions id := by
  rw [transmissions, transmissions, hhanded]

/-- Another callback than the completion handler is no transmission. -/
theorem transmissions_of_handed_cons {loop next : IceLoop} {callback : Callback} {id : Uuid}
    (hhanded : next.handed = callback ::ₘ loop.handed)
    (hcallback : callback ≠ .traversalDone id) :
    next.transmissions id = loop.transmissions id := by
  rw [transmissions, transmissions, hhanded, Multiset.count_cons_of_ne hcallback.symm]

variable {platform : Platform}

/-! ## One step -/

theorem find_of_signalingReceiver_request {strage : IceObserverStrage} {obsId : Uuid}
    {obs : SignalingRequest} (hreceiver : strage.signalingReceiver obsId = .request obs) :
    strage.requests.find obsId = some obs := by
  rw [IceObserverStrage.signalingReceiver] at hreceiver
  cases hrelay : strage.relays.find obsId with
  | some relay => simp [hrelay] at hreceiver
  | none =>
      cases hrequest : strage.requests.find obsId with
      | some found => simpa [hrelay, hrequest] using hreceiver
      | none => cases hresponse : strage.responses.find obsId <;>
          simp [hrelay, hrequest, hresponse] at hreceiver

section Triggered

variable {loop : IceLoop} {drawn : Uuid} {msg : Message} {ep : Endpoint}
  {iceMsg : IceMessage} {obsId : Uuid} {obs : SignalingRequest}

theorem triggered_of_ofProtocol_none
    (hsignaling : IceMessage.ofProtocol platform .signaling msg = none) :
    loop.triggered platform (.receive drawn msg ep) = none := by
  rw [triggered, hsignaling]
  exact ite_self _

theorem triggered_of_not_request
    (hsignaling : IceMessage.ofProtocol platform .signaling msg = some (iceMsg, obsId))
    (hreceiver : ∀ obs, loop.strage.signalingReceiver obsId ≠ .request obs) :
    loop.triggered platform (.receive drawn msg ep) = none := by
  cases hother : loop.strage.signalingReceiver obsId with
  | request obs => exact absurd hother (hreceiver obs)
  | relay obs => simp only [triggered, hsignaling, hother, ite_self]
  | response obs => simp only [triggered, hsignaling, hother, ite_self]
  | server => simp only [triggered, hsignaling, hother, ite_self]

theorem triggered_of_request (hissued : drawn ∉ loop.issued)
    (hsignaling : IceMessage.ofProtocol platform .signaling msg = some (iceMsg, obsId))
    (hreceiver : loop.strage.signalingReceiver obsId = .request obs) :
    loop.triggered platform (.receive drawn msg ep) =
      if obs.done = false ∧ SignalingRequest.Triggers platform loop.agent.selfEp iceMsg then
        some obs
      else none := by
  simp only [triggered, if_neg hissued, hsignaling, hreceiver]

theorem exists_message_of_triggered
    (htriggered : loop.triggered platform (.receive drawn msg ep) = some obs) :
    ∃ iceMsg obsId, IceMessage.ofProtocol platform .signaling msg = some (iceMsg, obsId) ∧
      loop.strage.signalingReceiver obsId = .request obs ∧ obs.done = false ∧
      SignalingRequest.Triggers platform loop.agent.selfEp iceMsg := by
  have hissued : drawn ∉ loop.issued := by
    intro hmem
    rw [triggered, if_pos hmem] at htriggered
    cases htriggered
  cases hsignaling : IceMessage.ofProtocol platform .signaling msg with
  | none =>
      rw [triggered_of_ofProtocol_none hsignaling] at htriggered
      cases htriggered
  | some found =>
      obtain ⟨iceMsg, obsId⟩ := found
      by_cases hrequest : ∃ other, loop.strage.signalingReceiver obsId = .request other
      · obtain ⟨other, hreceiver⟩ := hrequest
        rw [triggered_of_request hissued hsignaling hreceiver] at htriggered
        split_ifs at htriggered with htriggers
        obtain rfl := Option.some.inj htriggered
        exact ⟨iceMsg, obsId, rfl, hreceiver, htriggers⟩
      · rw [triggered_of_not_request hsignaling (not_exists.mp hrequest)] at htriggered
        cases htriggered

/-- What a triggering message is for: a stored observer that is not done. -/
theorem open_of_triggered {event : Event} (htriggered : loop.triggered platform event = some obs) :
    loop.strage.requests.find obs.id = some obs ∧ obs.done = false := by
  cases event with
  | receive drawn msg ep =>
      obtain ⟨iceMsg, obsId, -, hreceiver, hopen, -⟩ := exists_message_of_triggered htriggered
      have hfind := find_of_signalingReceiver_request hreceiver
      obtain rfl := KeyedList.key_of_find hfind
      exact ⟨hfind, hopen⟩
  | _ => cases htriggered

end Triggered

/-- How the number of transmissions changes: by one for the observer that an event
triggers. -/
def added (platform : Platform) (loop : IceLoop) (event : Event) (id : Uuid) : ℕ :=
  if (loop.triggered platform event).map SignalingRequest.id = some id then 1 else 0

theorem added_of_triggered_none {loop : IceLoop} {event : Event}
    (hnone : loop.triggered platform event = none) (id : Uuid) :
    loop.added platform event id = 0 := by
  rw [added, hnone]
  rfl

theorem transmissions_receive {loop next : IceLoop} {drawn : Uuid} {msg : Message}
    {ep : Endpoint} (hissued : drawn ∉ loop.issued)
    (hreceive : loop.receive platform drawn msg ep = some next) (id : Uuid) :
    next.transmissions id =
      loop.transmissions id + loop.added platform (.receive drawn msg ep) id := by
  obtain ⟨result, hincome, rfl⟩ := receive_eq_some hreceive
  have hquiet : result.2.pending = loop.io.pending →
      loop.triggered platform (.receive drawn msg ep) = none →
      (loop.received platform drawn msg ep result).transmissions id =
        loop.transmissions id + loop.added platform (.receive drawn msg ep) id := by
    intro hpending hnone
    rw [added_of_triggered_none hnone, Nat.add_zero]
    exact transmissions_of_handed_eq (handed_received_eq hpending) id
  cases hincome with
  | other hsignaling hstun => exact hquiet rfl (triggered_of_ofProtocol_none hsignaling)
  | relay iceMsg obsId obs hsignaling hreceiver =>
      exact hquiet rfl (triggered_of_not_request hsignaling fun other hother =>
        nomatch hreceiver.symm.trans hother)
  | response iceMsg obsId obs hsignaling hreceiver =>
      exact hquiet rfl (triggered_of_not_request hsignaling fun other hother =>
        nomatch hreceiver.symm.trans hother)
  | server iceMsg obsId result hsignaling hreceiver hserver =>
      exact hquiet (SignalingServer.marksOnly_of_incomeMessage hserver).pending
        (triggered_of_not_request hsignaling fun other hother =>
          nomatch hreceiver.symm.trans hother)
  | stun iceMsg obsId nextIo hstun hfind hserver =>
      exact hquiet (StunServer.pending_of_incomeMessage hserver)
        (triggered_of_ofProtocol_none (IceMessage.ofProtocol_signaling_of_stun hstun))
  | reply iceMsg obsId obs globalEp hstun hfind hglobalEp =>
      cases obs.pending_answer_cases platform ep globalEp loop.io with
      | inl hsame =>
          exact hquiet hsame (triggered_of_ofProtocol_none
            (IceMessage.ofProtocol_signaling_of_stun hstun))
      | inr hposted =>
          obtain ⟨argument, hposted⟩ := hposted
          rw [added_of_triggered_none (triggered_of_ofProtocol_none
            (IceMessage.ofProtocol_signaling_of_stun hstun)), Nat.add_zero]
          exact transmissions_of_handed_cons (handed_received_cons hposted) fun heq =>
            nomatch heq
  | request iceMsg obsId obs nextIo hsignaling hreceiver hrequest =>
      rw [SignalingRequest.eq_of_incomeMessage hrequest, added,
        triggered_of_request hissued hsignaling hreceiver]
      by_cases htriggers :
          obs.done = false ∧ SignalingRequest.Triggers platform loop.agent.selfEp iceMsg
      · rw [if_pos htriggers, if_pos htriggers, transmissions, transmissions,
          handed_received_cons (IoContext.pending_post _ _), Multiset.count_cons]
        simp [eq_comm]
      · rw [if_neg htriggers, if_neg htriggers]
        rfl

/-- Running a callback transmits nothing. -/
theorem transmissions_runCallback {loop next : IceLoop} {callback : Callback}
    (hrun : loop.runCallback platform callback = some next) (id : Uuid) :
    next.transmissions id = loop.transmissions id := by
  cases ran_of_runCallback hrun with
  | bindingTimeout obs hfind =>
      have hpending := obs.pending_onTimeout platform loop.io
      split_ifs at hpending
      · have hhanded : (loop.bindingTimeout platform obs).handed =
            .srHandler obs.id (obs.consensus platform false).ep ::ₘ loop.handed :=
          handed_eq_cons rfl hpending
        exact transmissions_of_handed_cons hhanded fun heq => nomatch heq
      · have hhanded : (loop.bindingTimeout platform obs).handed = loop.handed :=
          handed_eq rfl hpending
        exact transmissions_of_handed_eq hhanded id
  | srHandler obsId ep => cases ep <;> rfl
  | traversalDone obs hfind => rfl

/-- Only a triggering message transmits, and that once. -/
theorem transmissions_step {loop next : IceLoop} {event : Event}
    (hstep : loop.step platform event = some next) (id : Uuid) :
    next.transmissions id = loop.transmissions id + loop.added platform event id := by
  cases event with
  | receive drawn msg ep =>
      obtain ⟨hissued, hreceive⟩ := of_step_receive hstep
      exact transmissions_receive hissued hreceive id
  | signalingSend drawn destEp rootParam payload =>
      obtain ⟨-, rfl⟩ := of_step_signalingSend hstep
      have hsend := SignalingServer.signalingSend_keeps platform loop.agent.selfEp loop.table
        loop.strage loop.io drawn destEp rootParam payload
      have hhanded : (loop.signalingSend platform drawn destEp rootParam payload).handed =
          loop.handed := handed_eq rfl hsend.2
      exact transmissions_of_handed_eq hhanded id
  | bindingRequest drawn targetNodes reliability isAsync =>
      obtain ⟨-, rfl⟩ := of_step_bindingRequest hstep
      cases loop.handed_bindingRequest platform drawn targetNodes reliability isAsync with
      | inl hsame => exact transmissions_of_handed_eq hsame id
      | inr htimer => exact transmissions_of_handed_cons htimer fun heq => nomatch heq
  | updateGlobalSelfEndpoint ep =>
      obtain rfl := Option.some.inj hstep
      rfl
  | setTable table =>
      obtain rfl := Option.some.inj hstep
      rfl
  | refreshTick =>
      obtain rfl := Option.some.inj hstep
      have hhanded : loop.refreshTick.handed = loop.handed :=
        handed_eq rfl (IoContext.pending_cancel _ _)
      exact transmissions_of_handed_eq hhanded id
  | advance seconds =>
      obtain rfl := Option.some.inj hstep
      rfl
  | expire position =>
      obtain ⟨io, hexpire, rfl⟩ := Option.map_eq_some_iff.mp hstep
      have hhanded : ({ loop with io := io } : IceLoop).handed = loop.handed :=
        handed_eq rfl (IoContext.pending_expire hexpire)
      exact transmissions_of_handed_eq hhanded id
  | run position =>
      obtain ⟨⟨callback, io⟩, htake, hrun⟩ := Option.bind_eq_some_iff.mp hstep
      rw [transmissions_runCallback hrun id]
      exact transmissions_of_handed_eq (handed_log_take htake) id

/-! ## The observer knows when it is done -/

theorem leaves_receive {loop next : IceLoop} {drawn : Uuid} {msg : Message} {ep : Endpoint}
    (hreceive : loop.receive platform drawn msg ep = some next) (id : Uuid) :
    Leaves loop next id := by
  obtain ⟨result, hincome, rfl⟩ := receive_eq_some hreceive
  have hissued : id ∉ (loop.received platform drawn msg ep result).issued →
      id ∉ loop.issued := fun hnot hmem => hnot (List.mem_cons_of_mem drawn hmem)
  cases hincome with
  | server iceMsg obsId result hsignaling hreceiver hserver =>
      exact leaves_of_eq (SignalingServer.marksOnly_of_incomeMessage hserver).requests rfl
        hissued
  | _ => exact leaves_of_eq rfl rfl hissued

/-- A completion handler belongs to one observer, the other callbacks to none. -/
theorem doneAt_run {loop next : IceLoop} {position : ℕ}
    (hstep : loop.step platform (.run position) = some next) {id : Uuid}
    (hdoneAt : loop.DoneAt id) : next.DoneAt id := by
  obtain ⟨⟨callback, io⟩, htake, hrun⟩ := Option.bind_eq_some_iff.mp hstep
  have hran : callback ≠ .traversalDone id → (.traversalDone id ∈
      loop.history.ran ++ [callback] ↔ .traversalDone id ∈ loop.history.ran) := by
    intro hne
    rw [List.mem_append, List.mem_singleton, or_iff_left hne.symm]
  cases ran_of_runCallback hrun with
  | bindingTimeout obs hfind =>
      exact hdoneAt.leaves ⟨fun _ h => h, hran (fun heq => nomatch heq), fun h => h⟩
  | srHandler obsId ep =>
      cases ep with
      | none => exact hdoneAt.leaves ⟨fun _ h => h, hran (fun heq => nomatch heq), fun h => h⟩
      | some ep => exact hdoneAt.leaves ⟨fun _ h => h, hran (fun heq => nomatch heq), fun h => h⟩
  | traversalDone obs hfind =>
      have hmodify := KeyedList.find_modify loop.strage.requests obs.id
        SignalingRequest.traversalDone SignalingRequest.id_traversalDone id
      by_cases hid : id = obs.id
      · subst hid
        rw [if_pos rfl] at hmodify
        refine ⟨?_, ?_⟩
        · intro found hfound
          obtain ⟨old, -, rfl⟩ := Option.map_eq_some_iff.mp (hmodify.symm.trans hfound)
          exact iff_of_true rfl (List.mem_append_right _ List.mem_cons_self)
        · intro hissued
          have hnone := (hdoneAt.unused hissued).1
          rw [show loop.strage.requests.find obs.id = some obs from hfind] at hnone
          cases hnone
      · rw [if_neg hid] at hmodify
        apply hdoneAt.leaves
        refine ⟨fun found hfound => hmodify.symm.trans hfound, hran ?_, fun h => h⟩
        intro heq
        exact hid (Callback.traversalDone.inj heq).symm

/-- A new observer is not done. -/
theorem doneAt_signalingSend {loop : IceLoop} {drawn : Uuid} (hfresh : drawn ∉ loop.issued)
    (destEp : Endpoint) (rootParam : String) (payload : Json) {id : Uuid}
    (hdoneAt : loop.DoneAt id) :
    (loop.signalingSend platform drawn destEp rootParam payload).DoneAt id := by
  have hissued : id ∉ drawn :: loop.issued → id ∉ loop.issued := fun hnot hmem =>
    hnot (List.mem_cons_of_mem drawn hmem)
  rw [signalingSend, SignalingServer.signalingSend]
  split_ifs
  · exact hdoneAt.leaves ⟨fun _ h => h, Iff.rfl, hissued⟩
  · set obs := SignalingRequest.make drawn loop.io.now destEp rootParam payload
    by_cases hid : drawn = id
    · subst hid
      obtain ⟨hnone, hran⟩ := hdoneAt.unused hfresh
      have hinsert := KeyedList.find_insert_self loop.strage.requests obs
      rw [show SignalingRequest.id obs = drawn from rfl, hnone, Option.getD_none] at hinsert
      refine ⟨?_, fun hnot => absurd List.mem_cons_self hnot⟩
      intro found hfound
      obtain rfl := Option.some.inj (hinsert.symm.trans hfound)
      exact iff_of_false Bool.false_ne_true hran
    · have hinsert := KeyedList.find_insert_of_ne loop.strage.requests
        (show SignalingRequest.id obs ≠ id from hid)
      exact hdoneAt.leaves ⟨fun found hfound => hinsert.symm.trans hfound, Iff.rfl, hissued⟩

theorem doneAt_step {loop next : IceLoop} {event : Event}
    (hstep : loop.step platform event = some next) {id : Uuid} (hdoneAt : loop.DoneAt id) :
    next.DoneAt id := by
  cases event with
  | receive drawn msg ep =>
      exact hdoneAt.leaves (leaves_receive (of_step_receive hstep).2 id)
  | signalingSend drawn destEp rootParam payload =>
      obtain ⟨hissued, rfl⟩ := of_step_signalingSend hstep
      exact doneAt_signalingSend hissued destEp rootParam payload hdoneAt
  | bindingRequest drawn targetNodes reliability isAsync =>
      obtain ⟨-, rfl⟩ := of_step_bindingRequest hstep
      obtain ⟨hkept, hran, hdrawn⟩ :=
        loop.keeps_bindingRequest platform drawn targetNodes reliability isAsync
      apply hdoneAt.leaves (leaves_of_eq hkept.requests hran _)
      rw [hdrawn]
      exact fun hnot hmem => hnot (List.mem_cons_of_mem drawn hmem)
  | updateGlobalSelfEndpoint ep =>
      obtain rfl := Option.some.inj hstep
      exact hdoneAt.leaves (leaves_of_eq rfl rfl fun h => h)
  | setTable table =>
      obtain rfl := Option.some.inj hstep
      exact hdoneAt.leaves (leaves_of_eq rfl rfl fun h => h)
  | refreshTick =>
      obtain rfl := Option.some.inj hstep
      exact hdoneAt.leaves ⟨fun _ h => KeyedList.find_of_find_filter h, Iff.rfl, fun h => h⟩
  | advance seconds =>
      obtain rfl := Option.some.inj hstep
      exact hdoneAt.leaves (leaves_of_eq rfl rfl fun h => h)
  | expire position =>
      obtain ⟨io, hexpire, rfl⟩ := Option.map_eq_some_iff.mp hstep
      exact hdoneAt.leaves (leaves_of_eq rfl rfl fun h => h)
  | run position => exact doneAt_run hstep hdoneAt

theorem doneAt_start (selfEp : Endpoint) (table : KRoutingTable) (now : ℕ) (id : Uuid) :
    (start selfEp table now).DoneAt id where
  done _ hfind := nomatch hfind
  unused _ := ⟨rfl, List.not_mem_nil⟩

/-! ## Runs -/

/-- An observer that is triggered has no completed transmission. -/
theorem transmissions_of_triggered {loop : IceLoop} {event : Event} {id : Uuid}
    (hdoneAt : loop.DoneAt id)
    (htriggered : (loop.triggered platform event).map SignalingRequest.id = some id) :
    loop.transmissions id = loop.io.pending.count (.traversalDone id) := by
  obtain ⟨obs, hobs, rfl⟩ := Option.map_eq_some_iff.mp htriggered
  obtain ⟨hfind, hopen⟩ := open_of_triggered hobs
  have hran : .traversalDone obs.id ∉ loop.history.ran := by
    rw [← hdoneAt.done obs hfind, hopen]
    exact Bool.false_ne_true
  rw [transmissions, handed, Multiset.count_add, Multiset.coe_count,
    List.count_eq_zero_of_not_mem hran, Nat.zero_add]

/-- One step transmits a second time exactly if it does not await the completion of the
first transmission. -/
theorem transmissions_le_one_iff {loop next : IceLoop} {event : Event} {id : Uuid}
    (hdoneAt : loop.DoneAt id) (honce : loop.transmissions id ≤ 1)
    (hstep : loop.step platform event = some next) :
    next.transmissions id ≤ 1 ↔ loop.AwaitsDone platform id event := by
  rw [transmissions_step hstep, added, AwaitsDone]
  split_ifs with htriggered
  · have hfirst : loop.io.pending.count (.traversalDone id) + 1 ≤ 1 ↔
        .traversalDone id ∉ loop.io.pending := by
      rw [← Multiset.count_eq_zero]
      omega
    rw [transmissions_of_triggered hdoneAt htriggered, hfirst]
    exact ⟨fun hnot _ => hnot, fun hawaits => hawaits htriggered⟩
  · exact iff_of_true honce fun h => absurd h htriggered

/-- A triggering message can always be handled. -/
theorem triggered_of_stuck {loop : IceLoop} {event : Event}
    (hstuck : loop.step platform event = none) : loop.triggered platform event = none := by
  cases htriggered : loop.triggered platform event with
  | none => rfl
  | some obs =>
      cases event with
      | receive drawn msg ep =>
          rw [step] at hstuck
          split_ifs at hstuck with hissued
          · rw [triggered, if_pos hissued] at htriggered
            cases htriggered
          · obtain ⟨iceMsg, obsId, hsignaling, hreceiver, hopen, htriggers⟩ :=
              exists_message_of_triggered htriggered
            have hincome := IceAgent.incomeMessage_of_request hsignaling hreceiver
              (SignalingRequest.incomeMessage_of_triggers hopen htriggers loop.io) loop.table
              drawn ep
            rw [receive, hincome] at hstuck
            cases hstuck
      | _ => cases htriggered

/-- A transmission hands the cached message to the socket. -/
theorem sent_of_triggered {loop next : IceLoop} {event : Event} {obs : SignalingRequest}
    (htriggered : loop.triggered platform event = some obs)
    (hstep : loop.step platform event = some next) :
    next.io.sent = loop.io.sent ++ [⟨obs.ep, .ofPart obs.param obs.payload⟩] := by
  cases event with
  | receive drawn msg ep =>
      obtain ⟨iceMsg, obsId, hsignaling, hreceiver, hopen, htriggers⟩ :=
        exists_message_of_triggered htriggered
      have hincome := IceAgent.incomeMessage_of_request hsignaling hreceiver
        (SignalingRequest.incomeMessage_of_triggers hopen htriggers loop.io) loop.table
        drawn ep
      have hreceive := (of_step_receive hstep).2
      rw [receive, hincome] at hreceive
      obtain rfl := Option.some.inj hreceive
      rfl
  | _ => cases htriggered

/-- In every run the message of a signaling request is transmitted at most once exactly if
no triggering message arrives while a transmission has not completed. -/
theorem throughout_transmissions_iff (platform : Platform) (selfEp : Endpoint)
    (table : KRoutingTable) (now : ℕ) (id : Uuid) (events : List Event) :
    Runs.Throughout (step platform) (fun loop => loop.transmissions id ≤ 1)
        (start selfEp table now) events ↔
      Runs.Meets (step platform) (AwaitsDone platform id) (start selfEp table now) events := by
  apply Runs.throughout_iff_meets (DoneAt · id)
  · exact fun loop event next hdoneAt hstep => doneAt_step hstep hdoneAt
  · exact fun loop event next hdoneAt honce hstep =>
      transmissions_le_one_iff hdoneAt honce hstep
  · intro loop event hstuck htriggered
    rw [triggered_of_stuck hstuck] at htriggered
    cases htriggered
  · exact doneAt_start selfEp table now id
  · exact Nat.zero_le 1

/-- The answer of `10.0.0.5:8100` to the request 7 of `10.0.0.2:8100`. -/
def answerOfDest : Message :=
  let platform := hostPlatform []
  let request := (SignalingRequest.make 7 0 (nodeAt 5) "chat" (.string "hello")).requestMessage
    platform (nodeAt 2)
  .ofPart "ice_agent" (SignalingServer.responseMessage request).encode

/-- The request reached its destination over both relays, and the second answer arrives
before the first transmission has completed. -/
def twoAnswers : List Event :=
  [.signalingSend 7 (nodeAt 5) "chat" (.string "hello"),
    .receive 8 answerOfDest (nodeAt 5), .receive 9 answerOfDest (nodeAt 5)]

/-- Both answers make the node send its message. -/
theorem not_throughout_twoAnswers :
    ¬ Runs.Throughout (step (hostPlatform [])) (fun loop => loop.transmissions 7 ≤ 1)
      knowsTwo twoAnswers := by
  decide +kernel

end IceLoop

end SsP2p.Ice

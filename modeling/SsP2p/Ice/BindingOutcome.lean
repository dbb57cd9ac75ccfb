import SsP2p.Ice.IceLoop

/-!
# The outcome of a binding request

The handler of an `sr_object` is posted by a reply that completes the consensus or
by the callback of the timer, whichever comes first, although replies keep arriving
and cancelling the timer runs its callback as well.
-/

namespace SsP2p.Ice

open Kademlia

namespace BindingRequest

variable (platform : Platform)

/-- The `sr_object` gets the result of the consensus. -/
theorem result_updateSr (obs : BindingRequest) :
    (obs.updateSr (obs.consensus platform false)).sr.result =
      (obs.consensus platform false).ep := by
  cases obs.consensus_false_cases platform with
  | inl hopen =>
      rw [hopen]
      rfl
  | inr hdone =>
      obtain ⟨ep, hdone⟩ := hdone
      rw [hdone]
      rfl

theorem result_settled {obs : BindingRequest}
    (hdecided : (obs.consensus platform false).state ≠ .onHandling) :
    (obs.settled (obs.consensus platform false)).sr.result =
      (obs.consensus platform false).ep := by
  rw [settled, if_neg hdecided]
  exact obs.result_updateSr platform

/-- A consensus that is decided has elected an endpoint. -/
theorem exists_ep_of_decided {obs : BindingRequest}
    (hdecided : (obs.consensus platform false).state ≠ .onHandling) :
    ∃ ep, (obs.consensus platform false).ep = some ep := by
  cases obs.consensus_false_cases platform with
  | inl hopen => exact absurd (congrArg ConsensusCtx.state hopen) hdecided
  | inr hdone =>
      obtain ⟨ep, hdone⟩ := hdone
      exact ⟨ep, congrArg ConsensusCtx.ep hdone⟩

theorem settlement_of_decided {obs : BindingRequest}
    (hdecided : (obs.consensus platform false).state ≠ .onHandling) :
    ∃ settlement, obs.settlement (obs.consensus platform false) = some settlement ∧
      settlement.id = obs.id ∧ settlement.ep = (obs.consensus platform false).ep ∧
      settlement.result = settlement.ep ∧ ∃ ep, settlement.ep = some ep :=
  ⟨_, if_neg hdecided, rfl, rfl, result_settled platform hdecided,
    exists_ep_of_decided platform hdecided⟩

theorem isAsync_settled (cctx : ConsensusCtx) (obs : BindingRequest) :
    (obs.settled cctx).sr.isAsync = obs.sr.isAsync := by
  rw [settled]
  split_ifs
  · rfl
  · exact isAsync_updateSr obs cctx

theorem isHandlerCalled_settled {cctx : ConsensusCtx} {obs : BindingRequest}
    (hdecided : cctx.state ≠ .onHandling) :
    (obs.settled cctx).isHandlerCalled = (obs.isHandlerCalled || obs.sr.isAsync) := by
  rw [settled, if_neg hdecided]

end BindingRequest

/-- The `sr_object` has the endpoint of the consensus as its result, and the consensus that
a reply completed has one. -/
def Settlement.Agrees (settlement : Settlement) : Prop :=
  settlement.result = settlement.ep ∧
    (settlement.byReply = true → ∃ ep, settlement.ep = some ep)

namespace IceLoop

variable {platform : Platform}

/-- The argument of a posted handler of this `binding_request`. -/
def srArgument (id : Uuid) : Callback → Option (Option Endpoint)
  | .srHandler other ep => if other = id then some ep else none
  | _ => none

/-- The arguments that the handler of a `binding_request` was posted with. -/
def posts (loop : IceLoop) (id : Uuid) : Multiset (Option Endpoint) :=
  loop.handed.filterMap (srArgument id)

/-- The uses of the consensus of a `binding_request`, in their order. -/
def settlements (loop : IceLoop) (id : Uuid) : List Settlement :=
  loop.history.settled.filter fun settlement => decide (settlement.id = id)

/-- The handler of a `binding_request` is posted once, and by the first use of the
consensus: with the elected endpoint if that was a reply, and with what the consensus was
otherwise, which the `sr_object` has as its result then. -/
structure HandlerOnce (loop : IceLoop) (id : Uuid) : Prop where
  atMostOnce : (loop.posts id).card ≤ 1
  notBefore : loop.settlements id = [] → loop.posts id = 0
  exactlyOnce : ∀ first rest, loop.settlements id = first :: rest →
    loop.posts id = {first.ep}
  elected : ∀ settlement ∈ loop.settlements id, settlement.byReply = true →
    ∃ ep, settlement.ep = some ep
  agrees : ∀ settlement ∈ loop.settlements id, settlement.result = settlement.ep

/-! ## The invariant -/

/-- The endpoint of the first use of the consensus. -/
def firstEp (settlements : List Settlement) : Multiset (Option Endpoint) :=
  ((settlements.head?.map Settlement.ep).toList : List (Option Endpoint))

/-- An id that was never drawn has left no trace. -/
structure Unused (loop : IceLoop) (id : Uuid) : Prop where
  bindings : loop.strage.bindings.find id = none
  registered : id ∉ loop.history.registered
  posts : loop.posts id = 0
  settlements : loop.settlements id = []

structure SettledAt (loop : IceLoop) (id : Uuid) : Prop where
  posts : id ∈ loop.history.registered → loop.posts id = firstEp (loop.settlements id)
  flags : id ∈ loop.history.registered → ∀ obs, loop.strage.bindings.find id = some obs →
    obs.sr.isAsync = true ∧
      (obs.isHandlerCalled = true ↔ loop.settlements id ≠ [])
  agrees : ∀ settlement ∈ loop.settlements id, settlement.Agrees
  unused : id ∉ loop.issued → loop.Unused id

theorem SettledAt.handlerOnce {loop : IceLoop} {id : Uuid} (hsettled : loop.SettledAt id)
    (hregistered : id ∈ loop.history.registered) : loop.HandlerOnce id where
  atMostOnce := by
    rw [hsettled.posts hregistered, firstEp, Multiset.coe_card]
    cases loop.settlements id with
    | nil => exact Nat.zero_le 1
    | cons first rest => exact le_rfl
  notBefore hnone := by
    rw [hsettled.posts hregistered, hnone]
    rfl
  exactlyOnce first rest hfirst := by
    rw [hsettled.posts hregistered, hfirst]
    rfl
  elected settlement hmem := (hsettled.agrees settlement hmem).2
  agrees settlement hmem := (hsettled.agrees settlement hmem).1

/-- What a step leaves alone that is not about the `binding_request` with this id: its
observer at most disappears, or stores a reply. -/
structure Calm (loop next : IceLoop) (id : Uuid) : Prop where
  bindings : ∀ obs, next.strage.bindings.find id = some obs →
    ∃ old, loop.strage.bindings.find id = some old ∧ obs.sr.isAsync = old.sr.isAsync ∧
      obs.isHandlerCalled = old.isHandlerCalled
  registered : id ∈ next.history.registered ↔ id ∈ loop.history.registered
  posts : next.posts id = loop.posts id
  settlements : next.settlements id = loop.settlements id
  issued : id ∉ next.issued → id ∉ loop.issued

theorem SettledAt.calm {loop next : IceLoop} {id : Uuid} (hsettled : loop.SettledAt id)
    (hcalm : Calm loop next id) : next.SettledAt id where
  posts hregistered := by
    rw [hcalm.posts, hcalm.settlements]
    exact hsettled.posts (hcalm.registered.mp hregistered)
  flags hregistered obs hfind := by
    obtain ⟨old, hold, hasync, hcalled⟩ := hcalm.bindings obs hfind
    rw [hasync, hcalled, hcalm.settlements]
    exact hsettled.flags (hcalm.registered.mp hregistered) old hold
  agrees := by
    rw [hcalm.settlements]
    exact hsettled.agrees
  unused hissued := by
    obtain ⟨hbindings, hregistered, hposts, hsettlements⟩ :=
      hsettled.unused (hcalm.issued hissued)
    refine ⟨?_, hcalm.registered.not.mpr hregistered, hcalm.posts.trans hposts,
      hcalm.settlements.trans hsettlements⟩
    rw [Option.eq_none_iff_forall_ne_some]
    intro obs hfind
    obtain ⟨old, hold, -⟩ := hcalm.bindings obs hfind
    rw [hbindings] at hold
    cases hold

/-! ## What is posted -/

theorem posts_of_handed_eq {loop next : IceLoop} (hhanded : next.handed = loop.handed)
    (id : Uuid) : next.posts id = loop.posts id := by
  rw [posts, posts, hhanded]

/-- Another callback than the handler is no post. -/
theorem posts_of_handed_cons {loop next : IceLoop} {callback : Callback} {id : Uuid}
    (hhanded : next.handed = callback ::ₘ loop.handed)
    (hcallback : srArgument id callback = none) : next.posts id = loop.posts id := by
  rw [posts, posts, hhanded, Multiset.filterMap_cons_none _ _ hcallback]

theorem posts_of_handed_srHandler {loop next : IceLoop} {id : Uuid} {ep : Option Endpoint}
    (hhanded : next.handed = .srHandler id ep ::ₘ loop.handed) :
    next.posts id = ep ::ₘ loop.posts id := by
  have hargument : srArgument id (.srHandler id ep) = some ep := if_pos rfl
  rw [posts, posts, hhanded, Multiset.filterMap_cons_some _ _ _ hargument]

theorem srArgument_of_ne {id other : Uuid} (hne : other ≠ id) (ep : Option Endpoint) :
    srArgument id (.srHandler other ep) = none :=
  if_neg hne

/-! ## A use of the consensus -/

/-- A step that uses the consensus of a `binding_request`, whose observer is `left` from
then on. -/
structure Settles (loop next : IceLoop) (obs left : BindingRequest)
    (settlement : Settlement) : Prop where
  found : loop.strage.bindings.find obs.id = some obs
  bindings : ∀ id, next.strage.bindings.find id =
    if id = obs.id then some left else loop.strage.bindings.find id
  isAsync : left.sr.isAsync = obs.sr.isAsync
  isHandlerCalled : left.isHandlerCalled = (obs.isHandlerCalled || obs.sr.isAsync)
  registered : next.history.registered = loop.history.registered
  handed : next.handed =
    if obs.callsHandler then .srHandler obs.id settlement.ep ::ₘ loop.handed
    else loop.handed
  settled : next.history.settled = loop.history.settled ++ [settlement]
  id_eq : settlement.id = obs.id
  agrees : settlement.Agrees
  issued : ∀ id, id ∉ next.issued → id ∉ loop.issued

namespace Settles

variable {loop next : IceLoop} {obs left : BindingRequest} {settlement : Settlement}

theorem posts (hsettles : Settles loop next obs left settlement) :
    next.posts obs.id = if obs.callsHandler then settlement.ep ::ₘ loop.posts obs.id
      else loop.posts obs.id := by
  have hhanded := hsettles.handed
  split_ifs at hhanded ⊢
  · exact posts_of_handed_srHandler hhanded
  · exact posts_of_handed_eq hhanded obs.id

theorem settlements (hsettles : Settles loop next obs left settlement) :
    next.settlements obs.id = loop.settlements obs.id ++ [settlement] := by
  rw [IceLoop.settlements, hsettles.settled, List.filter_append, IceLoop.settlements]
  congr 1
  exact List.filter_cons_of_pos (decide_eq_true hsettles.id_eq)

/-- For the other binding requests nothing happens. -/
theorem calm_of_ne (hsettles : Settles loop next obs left settlement) {id : Uuid}
    (hne : id ≠ obs.id) : Calm loop next id where
  bindings found hfound := by
    rw [hsettles.bindings, if_neg hne] at hfound
    exact ⟨found, hfound, rfl, rfl⟩
  registered := by rw [hsettles.registered]
  posts := by
    have hhanded := hsettles.handed
    split_ifs at hhanded
    · exact posts_of_handed_cons hhanded (srArgument_of_ne hne.symm settlement.ep)
    · exact posts_of_handed_eq hhanded id
  settlements := by
    rw [IceLoop.settlements, hsettles.settled, List.filter_append, IceLoop.settlements,
      List.filter_cons_of_neg (by simpa [hsettles.id_eq] using hne.symm)]
    exact List.append_nil _
  issued := hsettles.issued id

theorem settledAt_self (hsettles : Settles loop next obs left settlement)
    (hsettled : loop.SettledAt obs.id) : next.SettledAt obs.id where
  posts hregistered := by
    rw [hsettles.registered] at hregistered
    obtain ⟨hasync, hcalled⟩ := hsettled.flags hregistered obs hsettles.found
    rw [hsettles.posts, hsettles.settlements, BindingRequest.callsHandler, hasync,
      Bool.true_and, hsettled.posts hregistered]
    cases hsettlements : loop.settlements obs.id with
    | nil =>
        have hnotCalled : obs.isHandlerCalled = false := by
          rw [← Bool.not_eq_true, hcalled, hsettlements]
          exact not_not.mpr rfl
        rw [hnotCalled]
        rfl
    | cons first rest =>
        have hwasCalled : obs.isHandlerCalled = true := by
          rw [hcalled, hsettlements]
          exact List.cons_ne_nil first rest
        rw [hwasCalled]
        rfl
  flags hregistered found hfound := by
    rw [hsettles.registered] at hregistered
    obtain ⟨hasync, -⟩ := hsettled.flags hregistered obs hsettles.found
    rw [hsettles.bindings, if_pos rfl] at hfound
    obtain rfl := Option.some.inj hfound
    rw [hsettles.isAsync, hsettles.isHandlerCalled, hasync, Bool.or_true,
      hsettles.settlements]
    exact ⟨rfl, iff_of_true rfl (List.append_ne_nil_of_right_ne_nil _ (List.cons_ne_nil _ _))⟩
  agrees := by
    rw [hsettles.settlements]
    intro other hother
    cases List.mem_append.mp hother with
    | inl hold => exact hsettled.agrees other hold
    | inr hnew =>
        rw [List.mem_singleton.mp hnew]
        exact hsettles.agrees
  unused hissued := by
    have hnone := (hsettled.unused (hsettles.issued obs.id hissued)).bindings
    rw [hsettles.found] at hnone
    cases hnone

theorem settledAt (hsettles : Settles loop next obs left settlement) {id : Uuid}
    (hsettled : loop.SettledAt id) : next.SettledAt id := by
  by_cases hid : id = obs.id
  · subst hid
    exact hsettles.settledAt_self hsettled
  · exact hsettled.calm (hsettles.calm_of_ne hid)

end Settles

/-! ## One step -/

/-- A step that leaves the observers of the binding requests alone. -/
theorem calm_of_bindings_eq {loop next : IceLoop} {id : Uuid}
    (hbindings : next.strage.bindings = loop.strage.bindings)
    (hregistered : next.history.registered = loop.history.registered)
    (hsettled : next.history.settled = loop.history.settled)
    (hposts : next.posts id = loop.posts id)
    (hissued : id ∉ next.issued → id ∉ loop.issued) : Calm loop next id where
  bindings obs hfind := ⟨obs, hbindings ▸ hfind, rfl, rfl⟩
  registered := by rw [hregistered]
  posts := hposts
  settlements := by rw [settlements, settlements, hsettled]
  issued := hissued

theorem settlement_of_ofProtocol_none {loop : IceLoop} {msg : Message} {ep : Endpoint}
    (hstun : IceMessage.ofProtocol platform .stun msg = none) :
    loop.settlement platform msg ep = none := by
  rw [settlement, hstun]
  rfl

theorem settlement_of_find_none {loop : IceLoop} {msg : Message} {ep : Endpoint}
    {iceMsg : IceMessage} {obsId : Uuid}
    (hstun : IceMessage.ofProtocol platform .stun msg = some (iceMsg, obsId))
    (hfind : loop.strage.bindings.find obsId = none) :
    loop.settlement platform msg ep = none := by
  rw [settlement, hstun]
  simp [hfind]

theorem settlement_of_reply {loop : IceLoop} {msg : Message} {ep globalEp : Endpoint}
    {iceMsg : IceMessage} {obsId : Uuid} {obs : BindingRequest}
    (hstun : IceMessage.ofProtocol platform .stun msg = some (iceMsg, obsId))
    (hfind : loop.strage.bindings.find obsId = some obs)
    (hglobalEp : iceMsg.getGlobalEp platform = .ok globalEp) :
    loop.settlement platform msg ep =
      (obs.addResponse ep globalEp).settlement
        ((obs.addResponse ep globalEp).consensus platform false) := by
  rw [settlement, hstun]
  simp [hfind, hglobalEp, Except.toOption]

/-- A message that is no reply leaves the binding requests alone. -/
theorem calm_received {loop : IceLoop} {drawn : Uuid} {msg : Message} {ep : Endpoint}
    {result : IceAgent × IoContext} (id : Uuid)
    (hbindings : result.1.obsStrage.bindings = loop.strage.bindings)
    (hpending : result.2.pending = loop.io.pending ∨
      ∃ other, result.2.pending = .traversalDone other ::ₘ loop.io.pending)
    (hsettlement : loop.settlement platform msg ep = none) :
    Calm loop (loop.received platform drawn msg ep result) id := by
  refine calm_of_bindings_eq hbindings rfl ?_ ?_ ?_
  · rw [received, hsettlement]
    exact List.append_nil _
  · cases hpending with
    | inl hsame => exact posts_of_handed_eq (handed_received_eq hsame) id
    | inr htraversal =>
        obtain ⟨other, hother⟩ := htraversal
        exact posts_of_handed_cons (handed_received_cons hother) rfl
  · exact fun hissued hmem => hissued (List.mem_cons_of_mem drawn hmem)

/-- A reply is about the binding request whose id it has. -/
theorem settledAt_received_reply {loop : IceLoop} {drawn : Uuid} {msg : Message}
    {ep globalEp : Endpoint} {iceMsg : IceMessage} {obsId : Uuid} {obs : BindingRequest}
    (hstun : IceMessage.ofProtocol platform .stun msg = some (iceMsg, obsId))
    (hfind : loop.strage.bindings.find obsId = some obs)
    (hglobalEp : iceMsg.getGlobalEp platform = .ok globalEp) {id : Uuid}
    (hsettled : loop.SettledAt id) :
    (loop.received platform drawn msg ep
      (loop.agent.withStrage (loop.strage.answerBinding platform ep globalEp obs.id),
        obs.answer platform ep globalEp loop.io)).SettledAt id := by
  obtain rfl : obs.id = obsId := KeyedList.key_of_find hfind
  set next := loop.received platform drawn msg ep
    (loop.agent.withStrage (loop.strage.answerBinding platform ep globalEp obs.id),
      obs.answer platform ep globalEp loop.io) with hnext
  have hsettlement : next.history.settled = loop.history.settled ++
      ((obs.addResponse ep globalEp).settlement
        ((obs.addResponse ep globalEp).consensus platform false)).toList := by
    rw [← settlement_of_reply hstun hfind hglobalEp]
    rfl
  have hbindings : ∀ other, next.strage.bindings.find other =
      if other = obs.id then some (obs.answered platform ep globalEp)
      else loop.strage.bindings.find other :=
    KeyedList.find_modify_of_find hfind (.answered platform ep globalEp)
      (BindingRequest.id_answered platform ep globalEp)
  have hissued : ∀ other, other ∉ next.issued → other ∉ loop.issued :=
    fun other hnotIssued hmem => hnotIssued (List.mem_cons_of_mem drawn hmem)
  by_cases hopen :
      ((obs.addResponse ep globalEp).consensus platform false).state = .onHandling
  · have hio : next.io = loop.io := if_pos hopen
    have hhanded : next.handed = loop.handed := handed_eq rfl (congrArg IoContext.pending hio)
    have hanswered : obs.answered platform ep globalEp = obs.addResponse ep globalEp :=
      if_pos hopen
    rw [BindingRequest.settlement, if_pos hopen] at hsettlement
    apply hsettled.calm
    refine ⟨?_, Iff.rfl, ?_, ?_, hissued id⟩
    · intro left hleft
      rw [hbindings, hanswered] at hleft
      split_ifs at hleft with hid
      · subst hid
        exact ⟨obs, hfind, Option.some.inj hleft ▸ rfl, Option.some.inj hleft ▸ rfl⟩
      · exact ⟨left, hleft, rfl, rfl⟩
    · exact posts_of_handed_eq hhanded id
    · rw [settlements, hsettlement]
      exact congrArg _ (List.append_nil _)
  · obtain ⟨settlement, hsome, hid, hep, hresult, helected⟩ :=
      BindingRequest.settlement_of_decided platform hopen
    rw [hsome] at hsettlement
    have hpending : next.io.pending = if obs.callsHandler then
        .srHandler obs.id settlement.ep ::ₘ loop.io.pending else loop.io.pending := by
      rw [hep]
      exact BindingRequest.pending_settle hopen loop.io
    have hsettles : Settles loop next obs (obs.answered platform ep globalEp) settlement := by
      refine ⟨hfind, hbindings, ?_, ?_, rfl, ?_, hsettlement, hid, ⟨hresult, fun _ => helected⟩,
        hissued⟩
      · exact BindingRequest.isAsync_settled _ _
      · exact BindingRequest.isHandlerCalled_settled hopen
      · split_ifs at hpending ⊢
        · exact handed_eq_cons rfl hpending
        · exact handed_eq rfl hpending
    exact hsettles.settledAt hsettled

theorem settledAt_receive {loop next : IceLoop} {drawn : Uuid} {msg : Message}
    {ep : Endpoint} (hreceive : loop.receive platform drawn msg ep = some next) {id : Uuid}
    (hsettled : loop.SettledAt id) : next.SettledAt id := by
  obtain ⟨result, hincome, rfl⟩ := receive_eq_some hreceive
  cases hincome with
  | other hsignaling hstun =>
      exact hsettled.calm (calm_received id rfl (Or.inl rfl)
        (settlement_of_ofProtocol_none hstun))
  | relay iceMsg obsId obs hsignaling hreceiver =>
      exact hsettled.calm (calm_received id rfl (Or.inl rfl)
        (settlement_of_ofProtocol_none (IceMessage.ofProtocol_stun_of_signaling hsignaling)))
  | request iceMsg obsId obs nextIo hsignaling hreceiver hrequest =>
      apply hsettled.calm (calm_received id rfl _
        (settlement_of_ofProtocol_none (IceMessage.ofProtocol_stun_of_signaling hsignaling)))
      rw [SignalingRequest.eq_of_incomeMessage hrequest]
      split_ifs
      · exact Or.inr ⟨obs.id, IoContext.pending_post _ _⟩
      · exact Or.inl rfl
  | response iceMsg obsId obs hsignaling hreceiver =>
      exact hsettled.calm (calm_received id rfl (Or.inl rfl)
        (settlement_of_ofProtocol_none (IceMessage.ofProtocol_stun_of_signaling hsignaling)))
  | server iceMsg obsId result hsignaling hreceiver hserver =>
      have hmarks := SignalingServer.marksOnly_of_incomeMessage hserver
      exact hsettled.calm (calm_received id hmarks.bindings (Or.inl hmarks.pending)
        (settlement_of_ofProtocol_none (IceMessage.ofProtocol_stun_of_signaling hsignaling)))
  | reply iceMsg obsId obs globalEp hstun hfind hglobalEp =>
      exact settledAt_received_reply hstun hfind hglobalEp hsettled
  | stun iceMsg obsId nextIo hstun hfind hserver =>
      exact hsettled.calm (calm_received id rfl
        (Or.inl (StunServer.pending_of_incomeMessage hserver))
        (settlement_of_find_none hstun hfind))

/-- The callback of the timer uses the consensus as well, after a cancellation too. -/
theorem settles_bindingTimeout (platform : Platform) {loop : IceLoop} {obs : BindingRequest}
    (hfind : loop.strage.bindings.find obs.id = some obs) :
    Settles loop (loop.bindingTimeout platform obs) obs (obs.timedOut platform)
      (obs.timeoutSettlement platform) := by
  have hpending := BindingRequest.pending_onTimeout platform obs loop.io
  refine ⟨hfind, ?_, BindingRequest.isAsync_updateSr obs _, rfl, rfl, ?_, rfl, rfl,
    ⟨BindingRequest.result_updateSr platform obs, fun hreply => nomatch hreply⟩,
    fun _ hissued => hissued⟩
  · exact KeyedList.find_modify_of_find hfind (.timedOut platform)
      (BindingRequest.id_timedOut platform)
  · split_ifs at hpending ⊢
    · exact handed_eq_cons rfl hpending
    · exact handed_eq rfl hpending

/-- What was taken from the ready queue is run, and nothing else changes. -/
theorem calm_log_take {loop : IceLoop} {position : ℕ} {callback : Callback} {io : IoContext}
    (htake : loop.io.take position = some (callback, io)) (id : Uuid) :
    Calm loop (({ loop with io := io } : IceLoop).log callback) id :=
  calm_of_bindings_eq rfl rfl rfl (posts_of_handed_eq (handed_log_take htake) id) fun h => h

theorem settledAt_runCallback {loop next : IceLoop} {callback : Callback}
    (hrun : loop.runCallback platform callback = some next) {id : Uuid}
    (hsettled : loop.SettledAt id) : next.SettledAt id := by
  cases ran_of_runCallback hrun with
  | bindingTimeout obs hfind =>
      exact (settles_bindingTimeout platform hfind).settledAt hsettled
  | srHandler obsId ep =>
      cases ep with
      | none => exact hsettled
      | some ep => exact hsettled.calm (calm_of_bindings_eq rfl rfl rfl rfl fun h => h)
  | traversalDone obs hfind =>
      exact hsettled.calm (calm_of_bindings_eq rfl rfl rfl rfl fun h => h)

/-- A tick deletes observers and cancels their timers. -/
theorem calm_refreshTick (loop : IceLoop) (id : Uuid) : Calm loop loop.refreshTick id where
  bindings obs hfind := ⟨obs, KeyedList.find_of_find_filter hfind, rfl, rfl⟩
  registered := Iff.rfl
  posts := by
    have hhanded : loop.refreshTick.handed = loop.handed :=
      handed_eq rfl (IoContext.pending_cancel _ _)
    exact posts_of_handed_eq hhanded id
  settlements := rfl
  issued hissued := hissued

/-! ## A new binding request -/

theorem calm_signalingSend (loop : IceLoop) (drawn : Uuid) (destEp : Endpoint)
    (rootParam : String) (payload : Json) (id : Uuid) :
    Calm loop (loop.signalingSend platform drawn destEp rootParam payload) id := by
  have hsend := SignalingServer.signalingSend_keeps platform loop.agent.selfEp loop.table
    loop.strage loop.io drawn destEp rootParam payload
  have hhanded : (loop.signalingSend platform drawn destEp rootParam payload).handed =
      loop.handed := handed_eq rfl hsend.2
  exact calm_of_bindings_eq hsend.1 rfl rfl (posts_of_handed_eq hhanded id)
    fun hissued hmem => hissued (List.mem_cons_of_mem drawn hmem)

structure Starts (loop next : IceLoop) (drawn : Uuid) (isAsync : Bool) : Prop where
  others : ∀ id, id ≠ drawn → next.strage.bindings.find id = loop.strage.bindings.find id
  fresh : ∀ obs, next.strage.bindings.find drawn = some obs →
    obs.isHandlerCalled = false ∧ (isAsync = true → obs.sr.isAsync = true)
  registered : next.history.registered =
    if isAsync then drawn :: loop.history.registered else loop.history.registered
  settled : next.history.settled = loop.history.settled
  posts : ∀ id, next.posts id = loop.posts id
  issued : next.issued = drawn :: loop.issued

/-- `async_get` right after the request. -/
theorem Starts.asyncGet {loop next : IceLoop} {drawn : Uuid}
    (hstarts : Starts loop next drawn false) :
    Starts loop { next.withStrage (next.strage.asyncGetBinding drawn) with
      history := { next.history with registered := drawn :: next.history.registered } }
      drawn true where
  others id hne := by
    have hmodify := KeyedList.find_modify next.strage.bindings drawn .asyncGet
      BindingRequest.id_asyncGet id
    rw [if_neg hne, hstarts.others id hne] at hmodify
    exact hmodify
  fresh obs hfind := by
    have hmodify := KeyedList.find_modify next.strage.bindings drawn .asyncGet
      BindingRequest.id_asyncGet drawn
    rw [if_pos rfl] at hmodify
    obtain ⟨old, hold, rfl⟩ := Option.map_eq_some_iff.mp (hmodify.symm.trans hfind)
    exact ⟨(hstarts.fresh old hold).1, fun _ => rfl⟩
  registered := congrArg (drawn :: ·) hstarts.registered
  settled := hstarts.settled
  posts := hstarts.posts
  issued := hstarts.issued

theorem starts_bindingRequest (platform : Platform) (loop : IceLoop) {drawn : Uuid}
    (hunused : loop.strage.bindings.find drawn = none) (targetNodes : List Endpoint)
    (reliability : ℕ) (isAsync : Bool) :
    Starts loop (loop.bindingRequest platform drawn targetNodes reliability isAsync) drawn
      isAsync := by
  have hsync : ∀ strage io, StunServer.bindingRequest platform loop.strage loop.io loop.table
        drawn targetNodes reliability = (strage, io) →
      Starts loop { loop.withStrage strage with io := io, issued := drawn :: loop.issued }
        drawn false := by
    intro strage io hresult
    rcases StunServer.bindingRequest_cases platform loop.strage loop.io loop.table drawn
      targetNodes reliability with hnone | ⟨obs, nextIo, hsome, hid, hcalled, hpending⟩
    · obtain ⟨rfl, rfl⟩ := Prod.mk.inj (hresult.symm.trans hnone)
      refine ⟨fun _ _ => rfl, ?_, rfl, rfl, fun _ => rfl, rfl⟩
      intro obs hfind
      rw [show loop.strage.bindings.find drawn = some obs from hfind] at hunused
      cases hunused
    · obtain ⟨rfl, rfl⟩ := Prod.mk.inj (hresult.symm.trans hsome)
      refine ⟨?_, ?_, rfl, rfl, ?_, rfl⟩
      · intro id hne
        exact KeyedList.find_insert_of_ne loop.strage.bindings (hid ▸ hne.symm)
      · intro found hfind
        have hinsert := KeyedList.find_insert_self loop.strage.bindings obs
        rw [show BindingRequest.id obs = drawn from hid, hunused, Option.getD_none] at hinsert
        obtain rfl := Option.some.inj (hinsert.symm.trans hfind)
        exact ⟨hcalled, fun hasync => nomatch hasync⟩
      · intro id
        exact posts_of_handed_cons (handed_eq_cons rfl hpending) rfl
  rw [bindingRequest]
  cases isAsync with
  | false => exact hsync _ _ rfl
  | true => exact (hsync _ _ rfl).asyncGet

theorem Starts.settledAt {loop next : IceLoop} {drawn : Uuid} {isAsync : Bool}
    (hstarts : Starts loop next drawn isAsync) (hfresh : drawn ∉ loop.issued) {id : Uuid}
    (hsettled : loop.SettledAt id) : next.SettledAt id := by
  have hsettlements : next.settlements id = loop.settlements id := by
    rw [settlements, settlements, hstarts.settled]
  by_cases hid : id = drawn
  · subst hid
    have hunused := hsettled.unused hfresh
    refine ⟨?_, ?_, ?_, ?_⟩
    · intro _
      rw [hstarts.posts, hsettlements, hunused.posts, hunused.settlements]
      rfl
    · intro hregistered obs hfind
      obtain ⟨hcalled, hasync⟩ := hstarts.fresh obs hfind
      have hisAsync : isAsync = true := by
        rw [hstarts.registered] at hregistered
        cases isAsync with
        | true => rfl
        | false => exact absurd hregistered hunused.registered
      rw [hcalled, hsettlements, hunused.settlements]
      exact ⟨hasync hisAsync, iff_of_false Bool.false_ne_true (not_not.mpr rfl)⟩
    · rw [hsettlements]
      exact hsettled.agrees
    · intro hissued
      rw [hstarts.issued] at hissued
      exact absurd List.mem_cons_self hissued
  · apply hsettled.calm
    refine ⟨?_, ?_, hstarts.posts id, hsettlements, ?_⟩
    · intro obs hfind
      exact ⟨obs, hstarts.others id hid ▸ hfind, rfl, rfl⟩
    · rw [hstarts.registered]
      cases isAsync with
      | true => exact List.mem_cons.trans (or_iff_right hid)
      | false => exact Iff.rfl
    · rw [hstarts.issued]
      exact fun hissued hmem => hissued (List.mem_cons_of_mem drawn hmem)

/-! ## Runs -/

/-- One step of the loop. -/
theorem settledAt_step {loop next : IceLoop} {event : Event}
    (hstep : loop.step platform event = some next) (hsettled : ∀ id, loop.SettledAt id)
    (id : Uuid) : next.SettledAt id := by
  cases event with
  | signalingSend drawn destEp rootParam payload =>
      obtain ⟨-, rfl⟩ := of_step_signalingSend hstep
      exact (hsettled id).calm (calm_signalingSend loop drawn destEp rootParam payload id)
  | bindingRequest drawn targetNodes reliability isAsync =>
      obtain ⟨hissued, rfl⟩ := of_step_bindingRequest hstep
      have hstarts := starts_bindingRequest platform loop
        ((hsettled drawn).unused hissued).bindings targetNodes reliability isAsync
      exact hstarts.settledAt hissued (hsettled id)
  | receive drawn msg ep =>
      exact settledAt_receive (of_step_receive hstep).2 (hsettled id)
  | updateGlobalSelfEndpoint ep =>
      obtain rfl := Option.some.inj hstep
      exact (hsettled id).calm (calm_of_bindings_eq rfl rfl rfl rfl fun h => h)
  | setTable table =>
      obtain rfl := Option.some.inj hstep
      exact (hsettled id).calm (calm_of_bindings_eq rfl rfl rfl rfl fun h => h)
  | refreshTick =>
      obtain rfl := Option.some.inj hstep
      exact (hsettled id).calm (calm_refreshTick loop id)
  | advance seconds =>
      obtain rfl := Option.some.inj hstep
      exact (hsettled id).calm (calm_of_bindings_eq rfl rfl rfl rfl fun h => h)
  | expire position =>
      obtain ⟨io, hexpire, rfl⟩ := Option.map_eq_some_iff.mp hstep
      have hhanded : ({ loop with io := io } : IceLoop).handed = loop.handed :=
        handed_eq rfl (IoContext.pending_expire hexpire)
      exact (hsettled id).calm (calm_of_bindings_eq rfl rfl rfl
        (posts_of_handed_eq hhanded id) fun h => h)
  | run position =>
      obtain ⟨⟨callback, io⟩, htake, hrun⟩ := Option.bind_eq_some_iff.mp hstep
      exact settledAt_runCallback hrun ((hsettled id).calm (calm_log_take htake id))

theorem settledAt_start (selfEp : Endpoint) (table : KRoutingTable) (now : ℕ) (id : Uuid) :
    (start selfEp table now).SettledAt id where
  posts hregistered := absurd hregistered List.not_mem_nil
  flags hregistered := absurd hregistered List.not_mem_nil
  agrees _ hmem := absurd hmem List.not_mem_nil
  unused _ := ⟨rfl, List.not_mem_nil, rfl, rfl⟩

/-- Whatever happens, the handler of every binding request is posted at most once, and
once from the first use of the consensus on, with the endpoint of that use.  The callback of a
request that was deleted before it is run is no step. -/
theorem throughout_handlerOnce (platform : Platform) (selfEp : Endpoint)
    (table : KRoutingTable) (now : ℕ) (events : List Event) :
    Runs.Throughout (step platform)
      (fun loop => ∀ id ∈ loop.history.registered, loop.HandlerOnce id)
      (start selfEp table now) events := by
  apply Runs.throughout_of_step (fun loop => ∀ id, loop.SettledAt id)
  · exact fun loop event next hsettled hstep => settledAt_step hstep hsettled
  · exact fun loop hsettled id hregistered => (hsettled id).handlerOnce hregistered
  · exact settledAt_start selfEp table now

/-- The answer of `10.0.0.3:8100` to the binding request 7 of `10.0.0.2:8100`. -/
def bindingAnswer : Message :=
  let platform := hostPlatform []
  let request := ((IceMessage.make .stun).setObserverId platform 7).setStunSubProtocol
    .bindingRequest
  .ofPart "ice_agent" (StunServer.responseMessage platform request (nodeAt 2)).encode

/-- The answer of the one node that was asked posts the handler; the timer does not post it
again. -/
example : (Runs.execute (step (hostPlatform [])) knowsTwo
    [.bindingRequest 7 [nodeAt 3] 3 true, .receive 8 bindingAnswer (nodeAt 3),
      .run 0, .run 0]).map (·.posts 7) = some {some (nodeAt 2)} := by
  decide +kernel

/-- Without an answer the timer posts it. -/
example : (Runs.execute (step (hostPlatform [])) knowsTwo
    [.bindingRequest 7 [nodeAt 3] 3 true, .advance 60, .expire 0, .run 0]).map (·.posts 7) =
      some {none} := by
  decide +kernel

end IceLoop

end SsP2p.Ice

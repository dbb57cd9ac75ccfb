import SsP2p.Ice.IceReads

/-!
# Messages without effect on the ICE layer

A message that the layer handles changes its observers and the event loop, or it is
inert: whoever receives it finds nothing to do.
-/

namespace SsP2p.Ice

open Kademlia

namespace SignalingServer

variable (platform : Platform) (selfEp : Endpoint) (table : KRoutingTable)

/-- The server does nothing with a message: it relays it neither to the destination
nor to another node, and it stores no observer, because the ttl is used up or because
the id that it draws has one. -/
def Ignores (strage : IceObserverStrage) (id : Uuid) (iceMsg : IceMessage) : Prop :=
  ∃ destEp ttl, iceMsg.getDestEndpoint platform = .ok destEp ∧ destEp ≠ selfEp ∧
    ¬ table.isExistEndpoint platform destEp = true ∧
    iceMsg.getTtl platform = .ok ttl ∧
    (ttl ≤ 0 ∨ (strage.relays.find id).isSome = true ∧
      ¬ HandsOn platform selfEp table iceMsg)

theorem sendAll_eq_self_iff {io : IoContext} {iceMsg : IceMessage}
    {eps : List Endpoint} : sendAll io iceMsg eps = io ↔ eps = [] := by
  rw [sendAll_eq]
  constructor
  · intro heq
    have hsent := congrArg IoContext.sent heq
    simpa using hsent
  · rintro rfl
    simp

theorem addRelay_eq_self_iff {strage : IceObserverStrage} {obs : SignalingMark} :
    strage.addRelay obs = strage ↔ (strage.relays.find obs.id).isSome = true := by
  rw [← KeyedList.insert_eq_self_iff]
  constructor
  · intro heq
    exact congrArg IceObserverStrage.relays heq
  · intro heq
    rw [IceObserverStrage.addRelay, heq]

variable {platform selfEp table}

/-- For a node that does not know the destination, ignoring a message is a matter of
the ttl, of the drawn id and of the nodes left. -/
theorem ignores_iff_forward {strage : IceObserverStrage} {id : Uuid}
    {iceMsg relayMsg : IceMessage} {destEp : Endpoint} {relayEps : List Endpoint} {ttl : ℤ}
    (hdest : iceMsg.getDestEndpoint platform = .ok destEp) (hself : destEp ≠ selfEp)
    (hrelay : relayMessage platform selfEp iceMsg = .ok relayMsg)
    (hexist : ¬ table.isExistEndpoint platform destEp = true)
    (hrelayEps : relayMsg.getRelayEndpoints platform = .ok relayEps)
    (httl : iceMsg.getTtl platform = .ok ttl) :
    Ignores platform selfEp table strage id iceMsg ↔
      ttl ≤ 0 ∨ (strage.relays.find id).isSome = true ∧
        table.collectEndpoint platform destEp signalingFanOut relayEps = [] := by
  have hhandsOn := handsOn_iff_forward hdest hself hrelay hexist hrelayEps httl
  constructor
  · rintro ⟨_, otherTtl, -, -, -, hotherTtl, hignored⟩
    obtain rfl := Except.ok.inj (httl.symm.trans hotherTtl)
    by_cases hexpired : ttl ≤ 0
    · exact Or.inl hexpired
    · obtain ⟨hsome, hnotHandsOn⟩ := hignored.resolve_left hexpired
      refine Or.inr ⟨hsome, ?_⟩
      by_contra hnodes
      exact hnotHandsOn (hhandsOn.mpr ⟨not_le.mp hexpired, hnodes⟩)
  · intro hignored
    refine ⟨destEp, ttl, hdest, hself, hexist, httl, ?_⟩
    apply hignored.imp_right
    rintro ⟨hsome, hnodes⟩
    exact ⟨hsome, fun hhands => (hhandsOn.mp hhands).2 hnodes⟩

/-- A message that is handled changes nothing exactly when it is ignored. -/
theorem eq_self_iff_of_incomeMessage {strage : IceObserverStrage} {io : IoContext}
    {id : Uuid} {iceMsg : IceMessage} {result : IceObserverStrage × IoContext}
    (hincome : incomeMessage platform selfEp table strage io id iceMsg = .ok result) :
    result = (strage, io) ↔ Ignores platform selfEp table strage id iceMsg := by
  rw [incomeMessage, Fallible.bind_eq_ok] at hincome
  obtain ⟨destEp, hdest, hincome⟩ := hincome
  by_cases hself : destEp = selfEp
  · rw [if_pos hself] at hincome
    simp only [answer, Fallible.bind_eq_ok, Fallible.pure_eq_ok] at hincome
    obtain ⟨srcEp, -, rfl⟩ := hincome
    apply iff_of_false
    · intro heq
      exact absurd (sendAll_eq_self_iff.mp (Prod.mk.inj heq).2) (List.cons_ne_nil _ _)
    · rintro ⟨other, ttl, hother, hne, -⟩
      rw [hdest] at hother
      exact hne ((Except.ok.inj hother).symm.trans hself)
  · rw [if_neg hself, Fallible.bind_eq_ok] at hincome
    obtain ⟨relayMsg, hrelay, hincome⟩ := hincome
    by_cases hexist : table.isExistEndpoint platform destEp = true
    · rw [if_pos hexist] at hincome
      obtain rfl := Fallible.pure_eq_ok.mp hincome
      apply iff_of_false
      · intro heq
        exact absurd (sendAll_eq_self_iff.mp (Prod.mk.inj heq).2) (List.cons_ne_nil _ _)
      · rintro ⟨other, ttl, hother, -, hnotExist, -⟩
        rw [hdest] at hother
        exact hnotExist (Except.ok.inj hother ▸ hexist)
    · rw [if_neg hexist] at hincome
      have hcopy := isCopy_relayMessage hrelay
      simp only [forward, Fallible.bind_eq_ok, getTtl_of_isCopy hcopy] at hincome
      obtain ⟨relayEps, hrelayEps, ttl, httl, hincome⟩ := hincome
      rw [ignores_iff_forward hdest hself hrelay hexist hrelayEps httl]
      by_cases hexpired : ttl ≤ 0
      · rw [if_pos hexpired] at hincome
        obtain rfl := Fallible.pure_eq_ok.mp hincome
        exact iff_of_true rfl (Or.inl hexpired)
      · rw [if_neg hexpired] at hincome
        simp only [Fallible.bind_eq_ok, Fallible.pure_eq_ok] at hincome
        obtain ⟨copy, -, rfl⟩ := hincome
        rw [Prod.mk.injEq, addRelay_eq_self_iff, sendAll_eq_self_iff,
          SignalingMark.id_make, or_iff_right hexpired]

end SignalingServer

namespace StunServer

variable (platform : Platform)

/-- The server does nothing with what is no request. -/
def Ignores (iceMsg : IceMessage) : Prop :=
  ∃ subProtocol, iceMsg.getSubProtocol platform = .ok subProtocol ∧
    subProtocol ≠ StunSubProtocol.bindingRequest.code

variable {platform}

theorem eq_self_iff_of_incomeMessage {io nextIo : IoContext} {iceMsg : IceMessage}
    {ep : Endpoint} (hincome : incomeMessage platform io iceMsg ep = .ok nextIo) :
    nextIo = io ↔ Ignores platform iceMsg := by
  rw [incomeMessage, Fallible.bind_eq_ok] at hincome
  obtain ⟨subProtocol, hsubProtocol, hincome⟩ := hincome
  have hignores : Ignores platform iceMsg ↔
      subProtocol ≠ StunSubProtocol.bindingRequest.code := by
    simp [Ignores, hsubProtocol]
  rw [hignores]
  by_cases hrequest : subProtocol = StunSubProtocol.bindingRequest.code
  · rw [if_pos hrequest] at hincome
    obtain rfl := Fallible.pure_eq_ok.mp hincome
    rw [SignalingServer.sendAll_eq_self_iff]
    exact iff_of_false (List.cons_ne_nil _ _) (not_not_intro hrequest)
  · rw [if_neg hrequest] at hincome
    exact iff_of_true (Fallible.pure_eq_ok.mp hincome).symm hrequest

end StunServer

namespace SignalingRequest

variable (platform : Platform) (selfEp : Endpoint)

/-- The observer does nothing with a message: it has sent its own already, or this one
is neither a response nor for this node. -/
def Ignores (obs : SignalingRequest) (iceMsg : IceMessage) : Prop :=
  obs.done = true ∨ ∃ subProtocol destEp,
    iceMsg.getSubProtocol platform = .ok subProtocol ∧
    subProtocol ≠ SignalingSubProtocol.response.code ∧
    iceMsg.getDestEndpoint platform = .ok destEp ∧ destEp ≠ selfEp

variable {platform selfEp}

theorem handedOver_sendCache (obs : SignalingRequest) (io : IoContext) :
    io.handedOver < (obs.sendCache io).handedOver := by
  rw [sendCache, IoContext.handedOver_post, IoContext.handedOver_asyncSend]
  omega

theorem sendCache_ne (obs : SignalingRequest) (io : IoContext) : obs.sendCache io ≠ io := by
  intro heq
  have hlt := obs.handedOver_sendCache io
  rw [heq] at hlt
  exact lt_irrefl _ hlt

/-- The observer sends its message or does nothing. -/
theorem eq_or_eq_sendCache {obs : SignalingRequest} {io nextIo : IoContext}
    {iceMsg : IceMessage}
    (hincome : obs.incomeMessage platform selfEp io iceMsg = .ok nextIo) :
    nextIo = io ∨ nextIo = obs.sendCache io := by
  rw [incomeMessage] at hincome
  split at hincome
  · exact Or.inl (Fallible.pure_eq_ok.mp hincome).symm
  · rw [Fallible.bind_eq_ok] at hincome
    obtain ⟨subProtocol, -, hincome⟩ := hincome
    split at hincome
    · exact Or.inr (Fallible.pure_eq_ok.mp hincome).symm
    · rw [Fallible.bind_eq_ok] at hincome
      obtain ⟨destEp, -, hincome⟩ := hincome
      split at hincome
      · exact Or.inl (Fallible.pure_eq_ok.mp hincome).symm
      · exact Or.inr (Fallible.pure_eq_ok.mp hincome).symm

theorem eq_self_iff_of_incomeMessage {obs : SignalingRequest} {io nextIo : IoContext}
    {iceMsg : IceMessage}
    (hincome : obs.incomeMessage platform selfEp io iceMsg = .ok nextIo) :
    nextIo = io ↔ obs.Ignores platform selfEp iceMsg := by
  rw [incomeMessage] at hincome
  by_cases hdone : obs.done = true
  · rw [if_pos hdone] at hincome
    exact iff_of_true (Fallible.pure_eq_ok.mp hincome).symm (Or.inl hdone)
  · rw [if_neg hdone, Fallible.bind_eq_ok] at hincome
    obtain ⟨subProtocol, hsubProtocol, hincome⟩ := hincome
    by_cases hresponse : subProtocol = SignalingSubProtocol.response.code
    · rw [if_pos hresponse] at hincome
      obtain rfl := Fallible.pure_eq_ok.mp hincome
      apply iff_of_false (obs.sendCache_ne io)
      rintro (hsent | ⟨other, -, hother, hne, -⟩)
      · exact hdone hsent
      · exact hne (Except.ok.inj (hother.symm.trans hsubProtocol) ▸ hresponse)
    · rw [if_neg hresponse, Fallible.bind_eq_ok] at hincome
      obtain ⟨destEp, hdest, hincome⟩ := hincome
      by_cases hself : destEp = selfEp
      · rw [if_neg (not_not_intro hself)] at hincome
        obtain rfl := Fallible.pure_eq_ok.mp hincome
        apply iff_of_false (obs.sendCache_ne io)
        rintro (hsent | ⟨_, other, -, -, hother, hne⟩)
        · exact hdone hsent
        · exact hne (Except.ok.inj (hother.symm.trans hdest) ▸ hself)
      · rw [if_pos hself] at hincome
        exact iff_of_true (Fallible.pure_eq_ok.mp hincome).symm
          (Or.inr ⟨subProtocol, destEp, hsubProtocol, hresponse, hdest, hself⟩)

end SignalingRequest

namespace SignalingMark

/-- A message that is absorbed only moves the time at which the observer expires. -/
theorem extended_eq_self_iff {now : ℕ} {obs : SignalingMark} :
    obs.extended now = obs ↔ obs.base.expireAt = now + defaultExpireTime := by
  cases obs with
  | mk base =>
      cases base
      simp [extended, BaseObserver.extendExpireAt, eq_comm]

end SignalingMark

namespace BindingRequest

variable (platform : Platform)

/-- Settling the election changes nothing: its result is the one in the `sr_object`,
the handler was called, the timer was cancelled, and the observer may be deleted. -/
structure Settled (cctx : ConsensusCtx) (obs : BindingRequest) (io : IoContext) :
    Prop where
  sr : (obs.updateSr cctx).sr = obs.sr
  handler : obs.callsHandler = false
  timer : ∀ wait ∈ io.waits, wait.2 ≠ .bindingTimeout obs.id
  expired : obs.base.expireAt = 0

/-- A reply changes nothing: it comes from a node that was not asked or repeats the
last reply of its node, and the election is not decided or was settled before. -/
def Ignores (obs : BindingRequest) (io : IoContext) (srcEp responseEp : Endpoint) :
    Prop :=
  obs.responses.addResponse srcEp responseEp = obs.responses ∧
    ((obs.consensus platform false).state = .onHandling ∨
      obs.Settled (obs.consensus platform false) io)

theorem settled_eq_self_iff {cctx : ConsensusCtx} {obs : BindingRequest}
    (hdecided : cctx.state ≠ .onHandling) :
    obs.settled cctx = obs ↔
      (obs.updateSr cctx).sr = obs.sr ∧ obs.callsHandler = false ∧
        obs.base.expireAt = 0 := by
  have hfields : obs.settled cctx = obs ↔
      obs.base.destructSelf = obs.base ∧ (obs.updateSr cctx).sr = obs.sr ∧
        (obs.isHandlerCalled || obs.sr.isAsync) = obs.isHandlerCalled := by
    rw [settled, if_neg hdecided, BindingRequest.mk.injEq]
    simp
  have hexpired : obs.base.destructSelf = obs.base ↔ obs.base.expireAt = 0 := by
    cases obs.base
    simp [BaseObserver.destructSelf, eq_comm]
  have hhandler : (obs.isHandlerCalled || obs.sr.isAsync) = obs.isHandlerCalled ↔
      obs.callsHandler = false := by
    cases hcalled : obs.isHandlerCalled <;> simp [callsHandler, hcalled]
  rw [hfields, hexpired, hhandler]
  tauto

theorem settle_eq_self_iff {cctx : ConsensusCtx} {obs : BindingRequest}
    {io : IoContext} (hdecided : cctx.state ≠ .onHandling)
    (hhandler : obs.callsHandler = false) :
    obs.settle cctx io = io ↔ ∀ wait ∈ io.waits, wait.2 ≠ .bindingTimeout obs.id := by
  rw [settle, if_neg hdecided, hhandler, if_neg Bool.false_ne_true,
    IoContext.cancel_eq_self_iff]
  simp

theorem addResponse_eq_self_iff {obs : BindingRequest} {srcEp responseEp : Endpoint} :
    obs.addResponse srcEp responseEp = obs ↔
      obs.responses.addResponse srcEp responseEp = obs.responses := by
  cases obs
  simp [addResponse]

variable {platform}

theorem addResponse_of_answered {obs : BindingRequest} {srcEp responseEp : Endpoint}
    (hanswered : obs.answered platform srcEp responseEp = obs) :
    obs.addResponse srcEp responseEp = obs := by
  rw [addResponse_eq_self_iff]
  have hresponses := congrArg BindingRequest.responses hanswered
  rw [answered, settled] at hresponses
  split at hresponses
  · exact hresponses
  · rwa [responses_updateSr] at hresponses

theorem answered_eq_self_iff {obs : BindingRequest} {io : IoContext}
    {srcEp responseEp : Endpoint} :
    obs.answered platform srcEp responseEp = obs ∧
        obs.answer platform srcEp responseEp io = io ↔
      obs.Ignores platform io srcEp responseEp := by
  rw [Ignores, ← addResponse_eq_self_iff]
  by_cases hrepeated : obs.addResponse srcEp responseEp = obs
  · simp only [answered, answer, hrepeated, true_and]
    by_cases hhandling : (obs.consensus platform false).state = .onHandling
    · rw [settled, settle, if_pos hhandling, if_pos hhandling]
      exact iff_of_true ⟨rfl, rfl⟩ (Or.inl hhandling)
    · rw [or_iff_right hhandling, settled_eq_self_iff hhandling]
      constructor
      · rintro ⟨⟨hsr, hhandler, hexpired⟩, hsettle⟩
        exact ⟨hsr, hhandler, (settle_eq_self_iff hhandling hhandler).mp hsettle, hexpired⟩
      · rintro ⟨hsr, hhandler, htimer, hexpired⟩
        exact ⟨⟨hsr, hhandler, hexpired⟩,
          (settle_eq_self_iff hhandling hhandler).mpr htimer⟩
  · apply iff_of_false
    · rintro ⟨hanswered, -⟩
      exact hrepeated (addResponse_of_answered hanswered)
    · rintro ⟨hresponses, -⟩
      exact hrepeated hresponses

end BindingRequest

namespace IceObserverStrage

variable {strage : IceObserverStrage}

theorem find_of_signalingReceiver_relay {obsId : Uuid} {obs : SignalingMark}
    (hreceiver : strage.signalingReceiver obsId = .relay obs) :
    strage.relays.find obs.id = some obs := by
  have hfind : strage.relays.find obsId = some obs := by
    rw [signalingReceiver] at hreceiver
    cases hrelay : strage.relays.find obsId with
    | some found => simpa [hrelay] using hreceiver
    | none =>
        cases hrequest : strage.requests.find obsId <;>
          cases hresponse : strage.responses.find obsId <;>
            simp [hrelay, hrequest, hresponse] at hreceiver
  rwa [show obs.id = obsId from KeyedList.key_of_find hfind]

theorem find_of_signalingReceiver_response {obsId : Uuid} {obs : SignalingMark}
    (hreceiver : strage.signalingReceiver obsId = .response obs) :
    strage.responses.find obs.id = some obs := by
  have hfind : strage.responses.find obsId = some obs := by
    rw [signalingReceiver] at hreceiver
    cases hrelay : strage.relays.find obsId with
    | some found => simp [hrelay] at hreceiver
    | none =>
        cases hrequest : strage.requests.find obsId with
        | some found => simp [hrelay, hrequest] at hreceiver
        | none =>
            cases hresponse : strage.responses.find obsId with
            | some found => simpa [hrelay, hrequest, hresponse] using hreceiver
            | none => simp [hrelay, hrequest, hresponse] at hreceiver
  rwa [show obs.id = obsId from KeyedList.key_of_find hfind]

theorem extendRelay_eq_self_iff {now : ℕ} {obs : SignalingMark}
    (hfind : strage.relays.find obs.id = some obs) :
    strage.extendRelay now obs.id = strage ↔
      obs.base.expireAt = now + defaultExpireTime := by
  have hmodify : strage.relays.modify obs.id (.extended now)
      (SignalingMark.id_extended now) = strage.relays ↔ obs.extended now = obs :=
    KeyedList.modify_eq_self_iff_of_find hfind
  rw [← SignalingMark.extended_eq_self_iff, ← hmodify]
  cases strage
  simp [extendRelay]

theorem extendResponse_eq_self_iff {now : ℕ} {obs : SignalingMark}
    (hfind : strage.responses.find obs.id = some obs) :
    strage.extendResponse now obs.id = strage ↔
      obs.base.expireAt = now + defaultExpireTime := by
  have hmodify : strage.responses.modify obs.id (.extended now)
      (SignalingMark.id_extended now) = strage.responses ↔ obs.extended now = obs :=
    KeyedList.modify_eq_self_iff_of_find hfind
  rw [← SignalingMark.extended_eq_self_iff, ← hmodify]
  cases strage
  simp [extendResponse]

theorem answerBinding_eq_self_iff {platform : Platform} {obs : BindingRequest}
    {srcEp responseEp : Endpoint} (hfind : strage.bindings.find obs.id = some obs) :
    strage.answerBinding platform srcEp responseEp obs.id = strage ↔
      obs.answered platform srcEp responseEp = obs := by
  have hmodify : strage.bindings.modify obs.id (.answered platform srcEp responseEp)
      (BindingRequest.id_answered platform srcEp responseEp) = strage.bindings ↔
        obs.answered platform srcEp responseEp = obs :=
    KeyedList.modify_eq_self_iff_of_find hfind
  rw [← hmodify]
  cases strage
  simp [answerBinding]

end IceObserverStrage

def SignalingReceiver.Ignores (platform : Platform) (selfEp : Endpoint)
    (table : KRoutingTable) (strage : IceObserverStrage) (now : ℕ) (id : Uuid)
    (iceMsg : IceMessage) : SignalingReceiver → Prop
  | .relay obs | .response obs => obs.base.expireAt = now + defaultExpireTime
  | .request obs => obs.Ignores platform selfEp iceMsg
  | .server => SignalingServer.Ignores platform selfEp table strage id iceMsg

namespace IceAgent

variable (platform : Platform)

def SignalingInert (agent : IceAgent) (table : KRoutingTable) (io : IoContext)
    (id : Uuid) (iceMsg : IceMessage) : Prop :=
  ∃ obsId, iceMsg.getObserverId platform = .ok obsId ∧
    (agent.obsStrage.signalingReceiver obsId).Ignores platform agent.selfEp table
      agent.obsStrage io.now id iceMsg

def StunInert (agent : IceAgent) (io : IoContext) (iceMsg : IceMessage)
    (ep : Endpoint) : Prop :=
  ∃ obsId, iceMsg.getObserverId platform = .ok obsId ∧
    match agent.obsStrage.bindings.find obsId with
    | some obs => ∃ globalEp, iceMsg.getGlobalEp platform = .ok globalEp ∧
        obs.Ignores platform io ep globalEp
    | none => StunServer.Ignores platform iceMsg

def Inert (agent : IceAgent) (table : KRoutingTable) (io : IoContext) (id : Uuid)
    (msg : Message) (ep : Endpoint) : Prop :=
  ∀ iceParam, msg.getParam "ice_agent" = some iceParam →
    ∃ iceMsg, IceMessage.ofJson iceParam = .ok iceMsg ∧
      match iceMsg.getProtocol with
      | .signaling => agent.SignalingInert platform table io id iceMsg
      | .stun => agent.StunInert platform io iceMsg ep
      | .none => True

variable {platform}

theorem replaceStrage_eq_self_iff {agent : IceAgent} {io : IoContext}
    {answer : IceObserverStrage × IoContext} :
    ({ agent with obsStrage := answer.1 }, answer.2) = (agent, io) ↔
      answer = (agent.obsStrage, io) := by
  cases agent
  simp [Prod.ext_iff]

theorem eq_self_iff_of_incomeSignaling {agent : IceAgent} {table : KRoutingTable}
    {io : IoContext} {id : Uuid} {iceMsg : IceMessage}
    {result : IceObserverStrage × IoContext}
    (hincome : agent.incomeSignaling platform table io id iceMsg = .ok result) :
    result = (agent.obsStrage, io) ↔
      agent.SignalingInert platform table io id iceMsg := by
  rw [incomeSignaling, Fallible.bind_eq_ok] at hincome
  obtain ⟨obsId, hobsId, hincome⟩ := hincome
  have hinert : agent.SignalingInert platform table io id iceMsg ↔
      (agent.obsStrage.signalingReceiver obsId).Ignores platform agent.selfEp table
        agent.obsStrage io.now id iceMsg := by
    simp [SignalingInert, hobsId]
  rw [hinert]
  cases hreceiver : agent.obsStrage.signalingReceiver obsId with
  | relay obs =>
      simp only [hreceiver] at hincome
      obtain rfl := Fallible.pure_eq_ok.mp hincome
      have hfind := IceObserverStrage.find_of_signalingReceiver_relay hreceiver
      rw [Prod.mk.injEq, and_iff_left rfl]
      exact IceObserverStrage.extendRelay_eq_self_iff hfind
  | request obs =>
      simp only [hreceiver, Fallible.bind_eq_ok, Fallible.pure_eq_ok] at hincome
      obtain ⟨nextIo, hrequest, rfl⟩ := hincome
      rw [Prod.mk.injEq, and_iff_right rfl]
      exact SignalingRequest.eq_self_iff_of_incomeMessage hrequest
  | response obs =>
      simp only [hreceiver] at hincome
      obtain rfl := Fallible.pure_eq_ok.mp hincome
      have hfind := IceObserverStrage.find_of_signalingReceiver_response hreceiver
      rw [Prod.mk.injEq, and_iff_left rfl]
      exact IceObserverStrage.extendResponse_eq_self_iff hfind
  | server =>
      simp only [hreceiver] at hincome
      exact SignalingServer.eq_self_iff_of_incomeMessage hincome

theorem eq_self_iff_of_incomeStun {agent : IceAgent} {io : IoContext}
    {iceMsg : IceMessage} {ep : Endpoint} {result : IceObserverStrage × IoContext}
    (hincome : agent.incomeStun platform io iceMsg ep = .ok result) :
    result = (agent.obsStrage, io) ↔ agent.StunInert platform io iceMsg ep := by
  rw [incomeStun, Fallible.bind_eq_ok] at hincome
  obtain ⟨obsId, hobsId, hincome⟩ := hincome
  cases hfind : agent.obsStrage.bindings.find obsId with
  | some obs =>
      simp only [hfind, Fallible.bind_eq_ok, Fallible.pure_eq_ok] at hincome
      obtain ⟨globalEp, hglobalEp, rfl⟩ := hincome
      have hinert : agent.StunInert platform io iceMsg ep ↔
          obs.Ignores platform io ep globalEp := by
        simp [StunInert, hobsId, hfind, hglobalEp]
      rw [← show obs.id = obsId from KeyedList.key_of_find hfind] at hfind
      rw [hinert, ← BindingRequest.answered_eq_self_iff, Prod.mk.injEq,
        IceObserverStrage.answerBinding_eq_self_iff hfind]
  | none =>
      simp only [hfind, Fallible.bind_eq_ok, Fallible.pure_eq_ok] at hincome
      obtain ⟨nextIo, hserver, rfl⟩ := hincome
      have hinert : agent.StunInert platform io iceMsg ep ↔
          StunServer.Ignores platform iceMsg := by
        simp [StunInert, hobsId, hfind]
      rw [hinert, Prod.mk.injEq, and_iff_right rfl]
      exact StunServer.eq_self_iff_of_incomeMessage hserver

/-- A message that is handled changes nothing exactly when it is inert. -/
theorem eq_self_iff_of_incomeMessage {agent : IceAgent} {table : KRoutingTable}
    {io : IoContext} {id : Uuid} {msg : Message} {ep : Endpoint}
    {result : IceAgent × IoContext}
    (hincome : agent.incomeMessage platform table io id msg ep = .ok result) :
    result = (agent, io) ↔ agent.Inert platform table io id msg ep := by
  rw [incomeMessage] at hincome
  cases hparam : msg.getParam "ice_agent" with
  | none =>
      simp only [hparam] at hincome
      obtain rfl := Fallible.pure_eq_ok.mp hincome
      exact iff_of_true rfl fun iceParam hsome => by simp [hparam] at hsome
  | some iceParam =>
      simp only [hparam, Fallible.bind_eq_ok] at hincome
      obtain ⟨iceMsg, hofJson, hincome⟩ := hincome
      cases hprotocol : iceMsg.getProtocol with
      | signaling =>
          simp only [hprotocol, Fallible.bind_eq_ok, Fallible.pure_eq_ok] at hincome
          obtain ⟨answer, hanswer, rfl⟩ := hincome
          have hinert : agent.Inert platform table io id msg ep ↔
              agent.SignalingInert platform table io id iceMsg := by
            simp [Inert, hparam, hofJson, hprotocol]
          rw [hinert, ← eq_self_iff_of_incomeSignaling hanswer]
          exact replaceStrage_eq_self_iff
      | stun =>
          simp only [hprotocol, Fallible.bind_eq_ok, Fallible.pure_eq_ok] at hincome
          obtain ⟨answer, hanswer, rfl⟩ := hincome
          have hinert : agent.Inert platform table io id msg ep ↔
              agent.StunInert platform io iceMsg ep := by
            simp [Inert, hparam, hofJson, hprotocol]
          rw [hinert, ← eq_self_iff_of_incomeStun hanswer]
          exact replaceStrage_eq_self_iff
      | none =>
          simp only [hprotocol] at hincome
          obtain rfl := Fallible.pure_eq_ok.mp hincome
          apply iff_of_true rfl
          simp [Inert, hparam, hofJson, hprotocol]

/-! ## What is handed to the event loop -/

theorem handedOver_le_sendAll (io : IoContext) (iceMsg : IceMessage)
    (eps : List Endpoint) :
    io.handedOver ≤ (SignalingServer.sendAll io iceMsg eps).handedOver := by
  rw [SignalingServer.sendAll_eq]
  simp [IoContext.handedOver]

theorem handedOver_le_answer (obs : BindingRequest) (srcEp responseEp : Endpoint)
    (io : IoContext) :
    io.handedOver ≤ (obs.answer platform srcEp responseEp io).handedOver := by
  rw [BindingRequest.answer, BindingRequest.settle]
  split
  · exact le_rfl
  · refine le_trans ?_ (IoContext.handedOver_le_cancel _ _)
    split
    · rw [IoContext.handedOver_post]
      exact Nat.le_succ _
    · exact le_rfl

theorem handedOver_le_of_request {obs : SignalingRequest} {selfEp : Endpoint}
    {io nextIo : IoContext} {iceMsg : IceMessage}
    (hincome : obs.incomeMessage platform selfEp io iceMsg = .ok nextIo) :
    io.handedOver ≤ nextIo.handedOver := by
  rcases SignalingRequest.eq_or_eq_sendCache hincome with rfl | rfl
  · exact le_rfl
  · exact (obs.handedOver_sendCache io).le

theorem handedOver_le_of_incomeSignaling {agent : IceAgent} {table : KRoutingTable}
    {io : IoContext} {id : Uuid} {iceMsg : IceMessage}
    {result : IceObserverStrage × IoContext}
    (hincome : agent.incomeSignaling platform table io id iceMsg = .ok result) :
    io.handedOver ≤ result.2.handedOver := by
  rw [incomeSignaling, Fallible.bind_eq_ok] at hincome
  obtain ⟨obsId, -, hincome⟩ := hincome
  cases hreceiver : agent.obsStrage.signalingReceiver obsId with
  | relay obs =>
      simp only [hreceiver] at hincome
      obtain rfl := Fallible.pure_eq_ok.mp hincome
      exact le_rfl
  | request obs =>
      simp only [hreceiver, Fallible.bind_eq_ok, Fallible.pure_eq_ok] at hincome
      obtain ⟨nextIo, hrequest, rfl⟩ := hincome
      exact handedOver_le_of_request hrequest
  | response obs =>
      simp only [hreceiver] at hincome
      obtain rfl := Fallible.pure_eq_ok.mp hincome
      exact le_rfl
  | server =>
      simp only [hreceiver] at hincome
      cases SignalingServer.handling_of_incomeMessage hincome with
      | answered srcEp hanswers hsrc => exact handedOver_le_sendAll _ _ _
      | handedOn copy added eps hhandsOn hcopy heps => exact handedOver_le_sendAll _ _ _
      | kept hanswers hhandsOn next hnext => exact le_rfl

theorem handedOver_le_of_incomeStun {agent : IceAgent} {io : IoContext}
    {iceMsg : IceMessage} {ep : Endpoint} {result : IceObserverStrage × IoContext}
    (hincome : agent.incomeStun platform io iceMsg ep = .ok result) :
    io.handedOver ≤ result.2.handedOver := by
  rw [incomeStun, Fallible.bind_eq_ok] at hincome
  obtain ⟨obsId, -, hincome⟩ := hincome
  cases hfind : agent.obsStrage.bindings.find obsId with
  | some obs =>
      simp only [hfind, Fallible.bind_eq_ok, Fallible.pure_eq_ok] at hincome
      obtain ⟨globalEp, -, rfl⟩ := hincome
      exact handedOver_le_answer obs ep globalEp io
  | none =>
      simp only [hfind, StunServer.incomeMessage, Fallible.bind_eq_ok,
        Fallible.pure_eq_ok] at hincome
      obtain ⟨nextIo, ⟨subProtocol, -, hserver⟩, rfl⟩ := hincome
      split at hserver
      · obtain rfl := Fallible.pure_eq_ok.mp hserver
        exact handedOver_le_sendAll _ _ _
      · obtain rfl := Fallible.pure_eq_ok.mp hserver
        exact le_rfl

/-- A message that is handled takes nothing back from the event loop. -/
theorem handedOver_le {agent : IceAgent} {table : KRoutingTable} {io : IoContext}
    {id : Uuid} {msg : Message} {ep : Endpoint} {result : IceAgent × IoContext}
    (hincome : agent.incomeMessage platform table io id msg ep = .ok result) :
    io.handedOver ≤ result.2.handedOver := by
  rw [incomeMessage] at hincome
  cases hparam : msg.getParam "ice_agent" with
  | none =>
      simp only [hparam] at hincome
      obtain rfl := Fallible.pure_eq_ok.mp hincome
      exact le_rfl
  | some iceParam =>
      simp only [hparam, Fallible.bind_eq_ok] at hincome
      obtain ⟨iceMsg, -, hincome⟩ := hincome
      cases hprotocol : iceMsg.getProtocol with
      | signaling =>
          simp only [hprotocol, Fallible.bind_eq_ok, Fallible.pure_eq_ok] at hincome
          obtain ⟨answer, hanswer, rfl⟩ := hincome
          exact handedOver_le_of_incomeSignaling hanswer
      | stun =>
          simp only [hprotocol, Fallible.bind_eq_ok, Fallible.pure_eq_ok] at hincome
          obtain ⟨answer, hanswer, rfl⟩ := hincome
          exact handedOver_le_of_incomeStun hanswer
      | none =>
          simp only [hprotocol] at hincome
          obtain rfl := Fallible.pure_eq_ok.mp hincome
          exact le_rfl

end IceAgent

end SsP2p.Ice

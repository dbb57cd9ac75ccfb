import SsP2p.Ice.IceObserver

/-!
# The signaling server

`signaling_server` handles the signaling messages that no observer waits for.
The destination answers the source; a node that knows the destination hands the
message to it; every other node hands it to a few nodes that have not seen it.
-/

namespace SsP2p.Ice

open Kademlia

namespace SignalingServer

section Server

variable (platform : Platform) (selfEp : Endpoint) (table : KRoutingTable)

def responseMessage (iceMsg : IceMessage) : IceMessage :=
  iceMsg.setSignalingSubProtocol .response

/-- The copy of the message that a relaying node hands on. -/
def relayMessage (iceMsg : IceMessage) : Except Fault IceMessage :=
  return (← iceMsg.addRelayEndpoint platform selfEp).setSignalingSubProtocol .relay

def addRelayEndpoints (iceMsg : IceMessage) (eps : List Endpoint) :
    Except Fault IceMessage :=
  eps.foldlM (fun iceMsg ep => iceMsg.addRelayEndpoint platform ep) iceMsg

/-- `async_ice_send` of one message to several endpoints. -/
def sendAll (io : IoContext) (iceMsg : IceMessage) (eps : List Endpoint) : IoContext :=
  eps.foldl (fun io ep => io.asyncSend ep "ice_agent" iceMsg.encode) io

/-- The branch of the destination. -/
def answer (strage : IceObserverStrage) (io : IoContext) (id : Uuid)
    (iceMsg : IceMessage) : Except Fault (IceObserverStrage × IoContext) := do
  let srcEp ← iceMsg.getSrcEndpoint platform
  return (strage.addResponse (.make id io.now),
    sendAll io (responseMessage iceMsg) [srcEp])

/-- The branch of a node that knows the destination. -/
def deliver (strage : IceObserverStrage) (io : IoContext) (id : Uuid)
    (relayMsg : IceMessage) (destEp : Endpoint) : IceObserverStrage × IoContext :=
  (strage.addRelay (.make id io.now), sendAll io relayMsg [destEp])

/-- The branch of every other node. -/
def forward (strage : IceObserverStrage) (io : IoContext) (id : Uuid)
    (relayMsg : IceMessage) (destEp : Endpoint) :
    Except Fault (IceObserverStrage × IoContext) := do
  let relayEps ← relayMsg.getRelayEndpoints platform
  let ttl ← relayMsg.getTtl platform
  if ttl ≤ 0 then return (strage, io)
  else do
    let forwardEps := table.collectEndpoint platform destEp signalingFanOut relayEps
    let relayMsg ← addRelayEndpoints platform relayMsg forwardEps
    return (strage.addRelay (.make id io.now), sendAll io relayMsg forwardEps)

/-- `income_message`; `id` is what the new observer draws. -/
def incomeMessage (strage : IceObserverStrage) (io : IoContext) (id : Uuid)
    (iceMsg : IceMessage) : Except Fault (IceObserverStrage × IoContext) := do
  let destEp ← iceMsg.getDestEndpoint platform
  if destEp = selfEp then answer platform strage io id iceMsg
  else do
    let relayMsg ← relayMessage platform selfEp iceMsg
    if table.isExistEndpoint platform destEp then
      return deliver strage io id relayMsg destEp
    else forward platform table strage io id relayMsg destEp

/-- `signaling_send` with the id that its observer draws. -/
def signalingSend (strage : IceObserverStrage) (io : IoContext) (id : Uuid)
    (destEp : Endpoint) (rootParam : String) (payload : Json) :
    IceObserverStrage × IoContext :=
  if table.isExistEndpoint platform destEp then
    (strage, io.asyncSend destEp rootParam payload)
  else
    let obs := SignalingRequest.make id io.now destEp rootParam payload
    (strage.addRequest obs, obs.init platform selfEp table io)

end Server

/-! ## What is sent -/

theorem sendAll_eq (io : IoContext) (iceMsg : IceMessage) (eps : List Endpoint) :
    sendAll io iceMsg eps =
      { io with sent := io.sent ++
          eps.map fun ep => ⟨ep, Message.ofPart "ice_agent" iceMsg.encode⟩ } := by
  rw [sendAll]
  induction eps generalizing io with
  | nil => simp
  | cons ep eps ih =>
      rw [List.foldl_cons, ih]
      simp [IoContext.asyncSend]

/-- A copy that a node hands on: the entries `added` are appended to the relay
endpoints, the sub protocol is `relay`, and nothing else is changed. -/
structure IsCopy (iceMsg copy : IceMessage) (added : List Json) : Prop where
  relayEps : ∃ items, (iceMsg.get "relay_eps" = .array items ∨
      iceMsg.get "relay_eps" = .null ∧ items = []) ∧
    copy.get "relay_eps" = .array (items ++ added)
  subProtocol : copy.get "sub_protocol" = .integer SignalingSubProtocol.relay.code
  rest : ∀ key, key ≠ "relay_eps" → key ≠ "sub_protocol" → copy.get key = iceMsg.get key

variable {platform : Platform} {selfEp : Endpoint} {table : KRoutingTable}

/-- The text under which an endpoint is added to the relay endpoints. -/
def relayEntry (platform : Platform) (ep : Endpoint) : Json :=
  .string (endpointToStr platform ep)

theorem isCopy_relayMessage {iceMsg relayMsg : IceMessage}
    (hrelay : relayMessage platform selfEp iceMsg = .ok relayMsg) :
    IsCopy iceMsg relayMsg [relayEntry platform selfEp] := by
  simp only [relayMessage, Fallible.bind_eq_ok, Fallible.pure_eq_ok,
    IceMessage.addRelayEndpoint_eq_ok_iff] at hrelay
  obtain ⟨_, ⟨items, hitems, rfl⟩, rfl⟩ := hrelay
  refine ⟨⟨items, hitems, ?_⟩, IceMessage.get_set_self _ _ _, ?_⟩
  · rw [IceMessage.get_setSignalingSubProtocol (by decide), IceMessage.get_set_self]
    rfl
  · intro key hrelayEps hsubProtocol
    rw [IceMessage.get_setSignalingSubProtocol hsubProtocol,
      IceMessage.get_set_of_ne hrelayEps]

/-- Once the relay endpoints are an array, more of them can be added. -/
theorem exists_addRelayEndpoints (platform : Platform)
    {iceMsg relayMsg : IceMessage} {added : List Json}
    (hcopy : IsCopy iceMsg relayMsg added) (eps : List Endpoint) :
    ∃ copy, addRelayEndpoints platform relayMsg eps = .ok copy ∧
      IsCopy iceMsg copy (added ++ eps.map (relayEntry platform)) := by
  induction eps generalizing relayMsg added with
  | nil => exact ⟨relayMsg, rfl, by simpa using hcopy⟩
  | cons ep eps ih =>
      obtain ⟨⟨items, hitems, hrelayEps⟩, hsubProtocol, hrest⟩ := hcopy
      have hadd : relayMsg.addRelayEndpoint platform ep =
          .ok (relayMsg.set "relay_eps"
            (.array (items ++ added ++ [relayEntry platform ep]))) :=
        IceMessage.addRelayEndpoint_eq_ok_iff.mpr ⟨_, Or.inl hrelayEps, rfl⟩
      have hnext : IsCopy iceMsg (relayMsg.set "relay_eps"
          (.array (items ++ added ++ [relayEntry platform ep])))
          (added ++ [relayEntry platform ep]) := by
        refine ⟨⟨items, hitems, ?_⟩, ?_, ?_⟩
        · rw [IceMessage.get_set_self, List.append_assoc]
        · rw [IceMessage.get_set_of_ne (by decide), hsubProtocol]
        · intro key hkey hsub
          rw [IceMessage.get_set_of_ne hkey, hrest key hkey hsub]
      obtain ⟨copy, hmore, hcopy⟩ := ih hnext
      refine ⟨copy, ?_, ?_⟩
      · rw [addRelayEndpoints, List.foldlM_cons, hadd]
        exact hmore
      · simpa using hcopy

/-- The copy carries the ttl of the message it is a copy of. -/
theorem getTtl_of_isCopy {iceMsg copy : IceMessage} {added : List Json}
    (hcopy : IsCopy iceMsg copy added) :
    copy.getTtl platform = iceMsg.getTtl platform := by
  rw [IceMessage.getTtl, IceMessage.getTtl, hcopy.rest "ttl" (by decide) (by decide)]

theorem getSubProtocol_of_isCopy {iceMsg copy : IceMessage} {added : List Json}
    (hcopy : IsCopy iceMsg copy added) :
    copy.getSubProtocol platform = .ok SignalingSubProtocol.relay.code := by
  rw [IceMessage.getSubProtocol, hcopy.subProtocol]
  rfl

/-! ## What one message amounts to -/

/-- The node hands the message on: it is not the destination, and it knows the
destination or, while the ttl lasts, a node that has not seen the message. -/
def HandsOn (platform : Platform) (selfEp : Endpoint) (table : KRoutingTable)
    (iceMsg : IceMessage) : Prop :=
  ∃ destEp relayMsg, iceMsg.getDestEndpoint platform = .ok destEp ∧
    destEp ≠ selfEp ∧ relayMessage platform selfEp iceMsg = .ok relayMsg ∧
    (table.isExistEndpoint platform destEp = true ∨
      ∃ relayEps ttl, relayMsg.getRelayEndpoints platform = .ok relayEps ∧
        iceMsg.getTtl platform = .ok ttl ∧ 0 < ttl ∧
        table.collectEndpoint platform destEp signalingFanOut relayEps ≠ [])

/-- The node is the destination and answers the source. -/
def Answers (platform : Platform) (selfEp : Endpoint) (iceMsg : IceMessage) : Prop :=
  iceMsg.getDestEndpoint platform = .ok selfEp ∧
    ∃ srcEp, iceMsg.getSrcEndpoint platform = .ok srcEp

/-- What `income_message` leaves of the storage and the event loop. -/
inductive Handling (platform : Platform) (selfEp : Endpoint) (table : KRoutingTable)
    (strage : IceObserverStrage) (io : IoContext) (id : Uuid) (iceMsg : IceMessage) :
    IceObserverStrage × IoContext → Prop where
  | answered (srcEp : Endpoint) (hanswers : Answers platform selfEp iceMsg)
      (hsrc : iceMsg.getSrcEndpoint platform = .ok srcEp) :
      Handling platform selfEp table strage io id iceMsg
        (strage.addResponse (.make id io.now),
          sendAll io (responseMessage iceMsg) [srcEp])
  | handedOn (copy : IceMessage) (added : List Json) (eps : List Endpoint)
      (hhandsOn : HandsOn platform selfEp table iceMsg)
      (hcopy : IsCopy iceMsg copy added) (heps : eps ≠ []) :
      Handling platform selfEp table strage io id iceMsg
        (strage.addRelay (.make id io.now), sendAll io copy eps)
  | kept (hanswers : ¬ Answers platform selfEp iceMsg)
      (hhandsOn : ¬ HandsOn platform selfEp table iceMsg)
      (next : IceObserverStrage)
      (hnext : next = strage ∨ next = strage.addRelay (.make id io.now)) :
      Handling platform selfEp table strage io id iceMsg (next, io)

/-- For a node that does not know the destination, handing on is a matter of the
ttl and of the nodes left. -/
theorem handsOn_iff_forward {iceMsg relayMsg : IceMessage} {destEp : Endpoint}
    {relayEps : List Endpoint} {ttl : ℤ}
    (hdest : iceMsg.getDestEndpoint platform = .ok destEp) (hself : destEp ≠ selfEp)
    (hrelay : relayMessage platform selfEp iceMsg = .ok relayMsg)
    (hexist : ¬ table.isExistEndpoint platform destEp = true)
    (hrelayEps : relayMsg.getRelayEndpoints platform = .ok relayEps)
    (httl : iceMsg.getTtl platform = .ok ttl) :
    HandsOn platform selfEp table iceMsg ↔
      0 < ttl ∧ table.collectEndpoint platform destEp signalingFanOut relayEps ≠ [] := by
  constructor
  · rintro ⟨_, _, hdest', -, hrelay', hhands⟩
    obtain rfl := Except.ok.inj (hdest.symm.trans hdest')
    obtain rfl := Except.ok.inj (hrelay.symm.trans hrelay')
    rcases hhands with hexist' | ⟨_, _, hrelayEps', httl', hpos, hsome⟩
    · exact absurd hexist' hexist
    · obtain rfl := Except.ok.inj (hrelayEps.symm.trans hrelayEps')
      obtain rfl := Except.ok.inj (httl.symm.trans httl')
      exact ⟨hpos, hsome⟩
  · rintro ⟨hpos, hsome⟩
    exact ⟨destEp, relayMsg, hdest, hself, hrelay,
      Or.inr ⟨relayEps, ttl, hrelayEps, httl, hpos, hsome⟩⟩

theorem handling_of_incomeMessage {strage : IceObserverStrage} {io : IoContext}
    {id : Uuid} {iceMsg : IceMessage} {result : IceObserverStrage × IoContext}
    (hincome : incomeMessage platform selfEp table strage io id iceMsg = .ok result) :
    Handling platform selfEp table strage io id iceMsg result := by
  rw [incomeMessage, Fallible.bind_eq_ok] at hincome
  obtain ⟨destEp, hdest, hincome⟩ := hincome
  by_cases hself : destEp = selfEp
  · subst hself
    rw [if_pos rfl] at hincome
    simp only [answer, Fallible.bind_eq_ok, Fallible.pure_eq_ok] at hincome
    obtain ⟨srcEp, hsrc, rfl⟩ := hincome
    exact Handling.answered srcEp ⟨hdest, srcEp, hsrc⟩ hsrc
  · rw [if_neg hself, Fallible.bind_eq_ok] at hincome
    obtain ⟨relayMsg, hrelay, hincome⟩ := hincome
    have hcopy := isCopy_relayMessage hrelay
    by_cases hexist : table.isExistEndpoint platform destEp = true
    · rw [if_pos hexist] at hincome
      obtain rfl := Fallible.pure_eq_ok.mp hincome
      exact Handling.handedOn relayMsg _ [destEp]
        ⟨destEp, relayMsg, hdest, hself, hrelay, Or.inl hexist⟩ hcopy
        (List.cons_ne_nil _ _)
    · rw [if_neg hexist] at hincome
      simp only [forward, Fallible.bind_eq_ok] at hincome
      obtain ⟨relayEps, hrelayEps, ttl, httl, hincome⟩ := hincome
      have hnotAnswers : ¬ Answers platform selfEp iceMsg := by
        rintro ⟨hdest', -⟩
        rw [hdest] at hdest'
        exact hself (Except.ok.inj hdest')
      rw [getTtl_of_isCopy hcopy] at httl
      have hiff := handsOn_iff_forward hdest hself hrelay hexist hrelayEps httl
      by_cases hexpired : ttl ≤ 0
      · rw [if_pos hexpired] at hincome
        obtain rfl := Fallible.pure_eq_ok.mp hincome
        have hnotHandsOn : ¬ HandsOn platform selfEp table iceMsg := fun hhands =>
          absurd (hiff.mp hhands).1 (by omega)
        exact Handling.kept hnotAnswers hnotHandsOn strage (Or.inl rfl)
      · rw [if_neg hexpired] at hincome
        obtain ⟨copy, hadd, hcopyAll⟩ := exists_addRelayEndpoints platform hcopy
          (table.collectEndpoint platform destEp signalingFanOut relayEps)
        rw [hadd] at hincome
        obtain rfl := Fallible.pure_eq_ok.mp hincome
        by_cases hnone :
            table.collectEndpoint platform destEp signalingFanOut relayEps = []
        · have hnotHandsOn : ¬ HandsOn platform selfEp table iceMsg := fun hhands =>
            (hiff.mp hhands).2 hnone
          rw [hnone]
          exact Handling.kept hnotAnswers hnotHandsOn _ (Or.inr rfl)
        · have hhandsOn : HandsOn platform selfEp table iceMsg :=
            hiff.mpr ⟨by omega, hnone⟩
          exact Handling.handedOn copy _ _ hhandsOn hcopyAll hnone

/-- The destination does not hand a message on. -/
theorem not_handsOn_of_answers {iceMsg : IceMessage}
    (hanswers : Answers platform selfEp iceMsg) :
    ¬ HandsOn platform selfEp table iceMsg := by
  rintro ⟨destEp, -, hdest, hself, -⟩
  rw [hanswers.1] at hdest
  exact hself (Except.ok.inj hdest).symm

theorem incomeMessage_of_dest {iceMsg : IceMessage} {srcEp : Endpoint}
    (hdest : iceMsg.getDestEndpoint platform = .ok selfEp)
    (hsrc : iceMsg.getSrcEndpoint platform = .ok srcEp) (table : KRoutingTable)
    (strage : IceObserverStrage) (io : IoContext) (id : Uuid) :
    incomeMessage platform selfEp table strage io id iceMsg =
      .ok (strage.addResponse (.make id io.now),
        sendAll io (responseMessage iceMsg) [srcEp]) := by
  rw [incomeMessage, hdest, Fallible.ok_bind, if_pos rfl, answer, hsrc]
  rfl

theorem incomeMessage_of_isExist {iceMsg relayMsg : IceMessage} {destEp : Endpoint}
    (hdest : iceMsg.getDestEndpoint platform = .ok destEp) (hself : destEp ≠ selfEp)
    (hrelay : relayMessage platform selfEp iceMsg = .ok relayMsg)
    (hexist : table.isExistEndpoint platform destEp = true)
    (strage : IceObserverStrage) (io : IoContext) (id : Uuid) :
    incomeMessage platform selfEp table strage io id iceMsg =
      .ok (strage.addRelay (.make id io.now), sendAll io relayMsg [destEp]) := by
  rw [incomeMessage, hdest, Fallible.ok_bind, if_neg hself, hrelay, Fallible.ok_bind,
    if_pos hexist]
  rfl

/-- The destination always answers. -/
theorem exists_of_answers {iceMsg : IceMessage}
    (hanswers : Answers platform selfEp iceMsg) (strage : IceObserverStrage)
    (io : IoContext) (id : Uuid) :
    ∃ result, incomeMessage platform selfEp table strage io id iceMsg = .ok result := by
  obtain ⟨hdest, srcEp, hsrc⟩ := hanswers
  exact ⟨_, incomeMessage_of_dest hdest hsrc table strage io id⟩

/-- A node that hands a message on reads nothing that it could fail on. -/
theorem exists_of_handsOn {iceMsg : IceMessage}
    (hhandsOn : HandsOn platform selfEp table iceMsg) (strage : IceObserverStrage)
    (io : IoContext) (id : Uuid) :
    ∃ result, incomeMessage platform selfEp table strage io id iceMsg = .ok result := by
  obtain ⟨destEp, relayMsg, hdest, hself, hrelay, hhands⟩ := hhandsOn
  by_cases hexist : table.isExistEndpoint platform destEp = true
  · exact ⟨_, incomeMessage_of_isExist hdest hself hrelay hexist strage io id⟩
  · rw [incomeMessage, hdest, Fallible.ok_bind, if_neg hself, hrelay, Fallible.ok_bind,
      if_neg hexist]
    obtain ⟨relayEps, ttl, hrelayEps, httl, hpos, -⟩ := hhands.resolve_left hexist
    have hcopy := isCopy_relayMessage hrelay
    obtain ⟨copy, hadd, -⟩ := exists_addRelayEndpoints platform hcopy
      (table.collectEndpoint platform destEp signalingFanOut relayEps)
    rw [forward, hrelayEps, Fallible.ok_bind, getTtl_of_isCopy hcopy, httl,
      Fallible.ok_bind, if_neg (not_le.mpr hpos)]
    simp only [hadd]
    exact ⟨_, rfl⟩

end SignalingServer

end SsP2p.Ice

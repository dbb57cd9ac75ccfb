import SsP2p.Core.HostPlatform
import SsP2p.Ice.IceAgent
import SsP2p.Lib.Runs

/-!
# The ICE agent in its event loop

`IceLoop` is an `ice_agent` with the event loop that serves it: requests, the
arrival of messages, the passing of time, timers that run out, callbacks that are
run and ticks of the observer storage, in any order, while the Kademlia layer
changes the routing table as it likes.  A callback on an observer that is no longer
stored has no defined behaviour, so that running it is not a step.  Observer ids
come from the random generator and are never drawn twice.
-/

namespace SsP2p.Ice

open Kademlia

/-- A use of the consensus of a `binding_request`: by a reply that completed it, or by
the callback of the timer. -/
structure Settlement where
  id : Uuid
  byReply : Bool
  /-- The endpoint of the consensus. -/
  ep : Option Endpoint
  /-- The result of the `sr_object` after it. -/
  result : Option Endpoint
  deriving DecidableEq

inductive MarkKind where
  | relay
  | response
  deriving DecidableEq

/-- A signaling message of any sub-protocol that was relayed or answered, and the observer that
was stored for it. -/
structure Handled where
  msgId : Uuid
  kind : MarkKind
  obsId : Uuid
  deriving DecidableEq

structure IceHistory where
  /-- The `binding_request`s whose `sr_object` has a handler. -/
  registered : List Uuid
  settled : List Settlement
  handled : List Handled
  /-- The callbacks that were run. -/
  ran : List Callback

/-- An `ice_agent` and its event loop, with the ids drawn so far. -/
structure IceLoop where
  agent : IceAgent
  table : KRoutingTable
  io : IoContext
  issued : List Uuid
  history : IceHistory

namespace IceMessage

variable (platform : Platform)

def ofMessage (msg : Message) : Option IceMessage := do
  let iceParam ← msg.getParam "ice_agent"
  (ofJson iceParam).toOption

/-- A message of this protocol and its observer id. -/
def ofProtocol (p : Protocol) (msg : Message) : Option (IceMessage × Uuid) := do
  let iceMsg ← ofMessage msg
  let obsId ← (iceMsg.getObserverId platform).toOption
  if iceMsg.getProtocol = p then some (iceMsg, obsId) else none

/-- A request as its source or a relaying node sends it. -/
def IsRequest (iceMsg : IceMessage) : Prop :=
  iceMsg.getSubProtocol platform = .ok SignalingSubProtocol.request.code ∨
    iceMsg.getSubProtocol platform = .ok SignalingSubProtocol.relay.code

end IceMessage

namespace BindingRequest

/-- What `income_message` makes of the consensus after the reply is stored. -/
def settlement (cctx : ConsensusCtx) (obs : BindingRequest) : Option Settlement :=
  if cctx.state = .onHandling then none
  else some ⟨obs.id, true, cctx.ep, (obs.settled cctx).sr.result⟩

/-- What `on_timeout` makes of the consensus. -/
def timeoutSettlement (platform : Platform) (obs : BindingRequest) : Settlement :=
  ⟨obs.id, false, (obs.consensus platform false).ep, (obs.timedOut platform).sr.result⟩

end BindingRequest

namespace IceLoop

inductive Event where
  | signalingSend (id : Uuid) (destEp : Endpoint) (rootParam : String) (payload : Json)
  /-- `binding_request`, and `async_get` on what it returns if `isAsync`. -/
  | bindingRequest (id : Uuid) (targetNodes : List Endpoint) (reliability : ℕ)
      (isAsync : Bool)
  /-- A message arrives; `id` is the id that a new observer draws. -/
  | receive (id : Uuid) (msg : Message) (ep : Endpoint)
  | updateGlobalSelfEndpoint (ep : Endpoint)
  /-- The Kademlia layer has changed the routing table. -/
  | setTable (table : KRoutingTable)
  /-- `refresh_tick` of the observer storage. -/
  | refreshTick
  | advance (seconds : ℕ)
  /-- The timer of the wait at this position runs out. -/
  | expire (position : ℕ)
  /-- Run the ready callback at this position. -/
  | run (position : ℕ)

variable (platform : Platform)

def strage (loop : IceLoop) : IceObserverStrage := loop.agent.obsStrage

def withStrage (loop : IceLoop) (strage : IceObserverStrage) : IceLoop :=
  { loop with agent := { loop.agent with obsStrage := strage } }

def start (selfEp : Endpoint) (table : KRoutingTable) (now : ℕ) : IceLoop where
  agent := ⟨selfEp, .empty⟩
  table := table
  io := .start now
  issued := []
  history := ⟨[], [], [], []⟩

/-- The agent of `10.0.0.2:8100`, which knows `10.0.0.3:8100` and `10.0.0.4:8100`. -/
def knowsTwo : IceLoop :=
  let platform := hostPlatform []
  start (nodeAt 2) ((KRoutingTable.empty (calcNodeId platform (nodeAt 2))).autoUpdateBatch
    platform [nodeAt 3, nodeAt 4]) 0

def signalingSend (loop : IceLoop) (id : Uuid) (destEp : Endpoint) (rootParam : String)
    (payload : Json) : IceLoop :=
  let (strage, io) := SignalingServer.signalingSend platform loop.agent.selfEp loop.table
    loop.strage loop.io id destEp rootParam payload
  { loop.withStrage strage with io := io, issued := id :: loop.issued }

def bindingRequest (loop : IceLoop) (id : Uuid) (targetNodes : List Endpoint)
    (reliability : ℕ) (isAsync : Bool) : IceLoop :=
  let (strage, io) := StunServer.bindingRequest platform loop.strage loop.io loop.table id
    targetNodes reliability
  let loop := { loop.withStrage strage with io := io, issued := id :: loop.issued }
  if isAsync then
    { loop.withStrage (loop.strage.asyncGetBinding id) with
      history := { loop.history with registered := id :: loop.history.registered } }
  else loop

/-- What the consensus of a `binding_request` was used for by a message. -/
def settlement (loop : IceLoop) (msg : Message) (ep : Endpoint) : Option Settlement := do
  let (iceMsg, obsId) ← IceMessage.ofProtocol platform .stun msg
  let obs ← loop.strage.bindings.find obsId
  let globalEp ← (iceMsg.getGlobalEp platform).toOption
  let obs := obs.addResponse ep globalEp
  obs.settlement (obs.consensus platform false)

/-- The signaling message, request or not, if the agent has relayed or answered it under the
id that it drew. -/
def handling (loop next : IceLoop) (id : Uuid) (msg : Message) : Option Handled := do
  let (_, obsId) ← IceMessage.ofProtocol platform .signaling msg
  if next.io.sent.length ≤ loop.io.sent.length then none
  else if (next.strage.relays.find id).isSome then some ⟨obsId, .relay, id⟩
  else if (next.strage.responses.find id).isSome then some ⟨obsId, .response, id⟩
  else none

def received (loop : IceLoop) (id : Uuid) (msg : Message) (ep : Endpoint)
    (result : IceAgent × IoContext) : IceLoop :=
  let next := { loop with agent := result.1, io := result.2, issued := id :: loop.issued }
  { next with history := { loop.history with
    settled := loop.history.settled ++ (loop.settlement platform msg ep).toList
    handled := loop.history.handled ++ (loop.handling platform next id msg).toList } }

def receive (loop : IceLoop) (id : Uuid) (msg : Message) (ep : Endpoint) :
    Option IceLoop :=
  match loop.agent.incomeMessage platform loop.table loop.io id msg ep with
  | .error _ => none
  | .ok result => some (loop.received platform id msg ep result)

/-- A deleted `binding_request` takes its timer along. -/
def refreshTick (loop : IceLoop) : IceLoop :=
  let strage := loop.strage.deleteExpires loop.io.now
  let deleted : Callback → Bool
    | .bindingTimeout id => (strage.bindings.find id).isNone
    | _ => false
  { loop.withStrage strage with io := loop.io.cancel deleted }

def bindingTimeout (loop : IceLoop) (obs : BindingRequest) : IceLoop :=
  { loop.withStrage (loop.strage.timeOutBinding platform obs.id) with
    io := obs.onTimeout platform loop.io
    history := { loop.history with
      settled := loop.history.settled ++ [obs.timeoutSettlement platform] } }

/-- The handler that `node_controller` gives to `async_get`. -/
def srHandler (loop : IceLoop) : Option Endpoint → IceLoop
  | none => loop
  | some ep => { loop with agent := loop.agent.updateGlobalSelfEndpoint ep }

def runCallback (loop : IceLoop) : Callback → Option IceLoop
  | .bindingTimeout obsId =>
      (loop.strage.bindings.find obsId).map fun obs => loop.bindingTimeout platform obs
  | .srHandler obsId ep =>
      (loop.strage.bindings.find obsId).map fun _ => loop.srHandler ep
  | .traversalDone obsId =>
      (loop.strage.requests.find obsId).map fun _ =>
        loop.withStrage (loop.strage.finishTraversal obsId)
  -- The other callbacks belong to the Kademlia layer.
  | _ => none

def log (loop : IceLoop) (callback : Callback) : IceLoop :=
  { loop with history := { loop.history with ran := loop.history.ran ++ [callback] } }

def step (loop : IceLoop) : Event → Option IceLoop
  | .signalingSend id destEp rootParam payload =>
      if id ∈ loop.issued then none
      else some (loop.signalingSend platform id destEp rootParam payload)
  | .bindingRequest id targetNodes reliability isAsync =>
      if id ∈ loop.issued then none
      else some (loop.bindingRequest platform id targetNodes reliability isAsync)
  | .receive id msg ep =>
      if id ∈ loop.issued then none else loop.receive platform id msg ep
  | .updateGlobalSelfEndpoint ep => some
      { loop with agent := loop.agent.updateGlobalSelfEndpoint ep }
  | .setTable table => some { loop with table := table }
  | .refreshTick => some loop.refreshTick
  | .advance seconds => some { loop with io := loop.io.advance seconds }
  | .expire position => (loop.io.expire position).map fun io => { loop with io := io }
  | .run position =>
      (loop.io.take position).bind fun taken =>
        runCallback platform (({ loop with io := taken.2 } : IceLoop).log taken.1) taken.1

end IceLoop

/-! ## What a message can do -/

namespace IceMessage

variable {platform : Platform}

theorem ofProtocol_eq_some_iff {p : Protocol} {msg : Message} {iceMsg : IceMessage}
    {obsId : Uuid} :
    ofProtocol platform p msg = some (iceMsg, obsId) ↔
      ofMessage msg = some iceMsg ∧ iceMsg.getObserverId platform = .ok obsId ∧
        iceMsg.getProtocol = p := by
  simp only [ofProtocol, Option.bind_eq_bind, Option.bind_eq_some_iff,
    Fallible.toOption_eq_some_iff]
  constructor
  · rintro ⟨other, hother, otherId, hobsId, hprotocol⟩
    split_ifs at hprotocol with hp
    obtain ⟨rfl, rfl⟩ := Prod.mk.inj (Option.some.inj hprotocol)
    exact ⟨hother, hobsId, hp⟩
  · rintro ⟨hother, hobsId, hp⟩
    exact ⟨iceMsg, hother, obsId, hobsId, if_pos hp⟩

/-- A message has one protocol. -/
theorem ofProtocol_eq_none_of_ne {p other : Protocol} (hne : p ≠ other) {msg : Message}
    {iceMsg : IceMessage} (hmsg : ofMessage msg = some iceMsg)
    (hprotocol : iceMsg.getProtocol = p) : ofProtocol platform other msg = none := by
  rw [Option.eq_none_iff_forall_ne_some]
  rintro ⟨found, obsId⟩ hfound
  obtain ⟨hfoundMsg, -, hother⟩ := ofProtocol_eq_some_iff.mp hfound
  obtain rfl := Option.some.inj (hmsg.symm.trans hfoundMsg)
  exact hne (hprotocol.symm.trans hother)

theorem ofProtocol_stun_of_signaling {msg : Message} {iceMsg : IceMessage} {obsId : Uuid}
    (hsignaling : ofProtocol platform .signaling msg = some (iceMsg, obsId)) :
    ofProtocol platform .stun msg = none := by
  obtain ⟨hmsg, -, hprotocol⟩ := ofProtocol_eq_some_iff.mp hsignaling
  exact ofProtocol_eq_none_of_ne (by decide) hmsg hprotocol

theorem ofProtocol_signaling_of_stun {msg : Message} {iceMsg : IceMessage} {obsId : Uuid}
    (hstun : ofProtocol platform .stun msg = some (iceMsg, obsId)) :
    ofProtocol platform .signaling msg = none := by
  obtain ⟨hmsg, -, hprotocol⟩ := ofProtocol_eq_some_iff.mp hstun
  exact ofProtocol_eq_none_of_ne (by decide) hmsg hprotocol

end IceMessage

namespace IceAgent

variable {platform : Platform}

def withStrage (agent : IceAgent) (strage : IceObserverStrage) : IceAgent :=
  { agent with obsStrage := strage }

/-- What `income_message` amounts to, by the one that the message is given to. -/
inductive Income (platform : Platform) (agent : IceAgent) (table : KRoutingTable)
    (io : IoContext) (id : Uuid) (msg : Message) (ep : Endpoint) :
    IceAgent × IoContext → Prop where
  | other (hsignaling : IceMessage.ofProtocol platform .signaling msg = none)
      (hstun : IceMessage.ofProtocol platform .stun msg = none) :
      Income platform agent table io id msg ep (agent, io)
  | relay (iceMsg : IceMessage) (obsId : Uuid) (obs : SignalingMark)
      (hsignaling : IceMessage.ofProtocol platform .signaling msg = some (iceMsg, obsId))
      (hreceiver : agent.obsStrage.signalingReceiver obsId = .relay obs) :
      Income platform agent table io id msg ep
        (agent.withStrage (agent.obsStrage.extendRelay io.now obs.id), io)
  | request (iceMsg : IceMessage) (obsId : Uuid) (obs : SignalingRequest)
      (nextIo : IoContext)
      (hsignaling : IceMessage.ofProtocol platform .signaling msg = some (iceMsg, obsId))
      (hreceiver : agent.obsStrage.signalingReceiver obsId = .request obs)
      (hincome : obs.incomeMessage platform agent.selfEp io iceMsg = .ok nextIo) :
      Income platform agent table io id msg ep (agent, nextIo)
  | response (iceMsg : IceMessage) (obsId : Uuid) (obs : SignalingMark)
      (hsignaling : IceMessage.ofProtocol platform .signaling msg = some (iceMsg, obsId))
      (hreceiver : agent.obsStrage.signalingReceiver obsId = .response obs) :
      Income platform agent table io id msg ep
        (agent.withStrage (agent.obsStrage.extendResponse io.now obs.id), io)
  | server (iceMsg : IceMessage) (obsId : Uuid) (result : IceObserverStrage × IoContext)
      (hsignaling : IceMessage.ofProtocol platform .signaling msg = some (iceMsg, obsId))
      (hreceiver : agent.obsStrage.signalingReceiver obsId = .server)
      (hincome : SignalingServer.incomeMessage platform agent.selfEp table agent.obsStrage
        io id iceMsg = .ok result) :
      Income platform agent table io id msg ep (agent.withStrage result.1, result.2)
  | reply (iceMsg : IceMessage) (obsId : Uuid) (obs : BindingRequest)
      (globalEp : Endpoint)
      (hstun : IceMessage.ofProtocol platform .stun msg = some (iceMsg, obsId))
      (hfind : agent.obsStrage.bindings.find obsId = some obs)
      (hglobalEp : iceMsg.getGlobalEp platform = .ok globalEp) :
      Income platform agent table io id msg ep
        (agent.withStrage (agent.obsStrage.answerBinding platform ep globalEp obs.id),
          obs.answer platform ep globalEp io)
  | stun (iceMsg : IceMessage) (obsId : Uuid) (nextIo : IoContext)
      (hstun : IceMessage.ofProtocol platform .stun msg = some (iceMsg, obsId))
      (hfind : agent.obsStrage.bindings.find obsId = none)
      (hincome : StunServer.incomeMessage platform io iceMsg ep = .ok nextIo) :
      Income platform agent table io id msg ep (agent, nextIo)

variable {agent : IceAgent} {table : KRoutingTable} {io : IoContext} {id : Uuid}
  {msg : Message} {ep : Endpoint} {iceMsg : IceMessage}

theorem income_of_incomeSignaling {result : IceObserverStrage × IoContext}
    (hmsg : IceMessage.ofMessage msg = some iceMsg)
    (hprotocol : iceMsg.getProtocol = .signaling)
    (hincome : agent.incomeSignaling platform table io id iceMsg = .ok result) :
    Income platform agent table io id msg ep (agent.withStrage result.1, result.2) := by
  rw [incomeSignaling, Fallible.bind_eq_ok] at hincome
  obtain ⟨obsId, hobsId, hincome⟩ := hincome
  have hsignaling : IceMessage.ofProtocol platform .signaling msg = some (iceMsg, obsId) :=
    IceMessage.ofProtocol_eq_some_iff.mpr ⟨hmsg, hobsId, hprotocol⟩
  cases hreceiver : agent.obsStrage.signalingReceiver obsId with
  | relay obs =>
      rw [hreceiver] at hincome
      obtain rfl := Fallible.pure_eq_ok.mp hincome
      exact Income.relay iceMsg obsId obs hsignaling hreceiver
  | request obs =>
      simp only [hreceiver, Fallible.bind_eq_ok, Fallible.pure_eq_ok] at hincome
      obtain ⟨nextIo, hrequest, rfl⟩ := hincome
      exact Income.request iceMsg obsId obs nextIo hsignaling hreceiver hrequest
  | response obs =>
      rw [hreceiver] at hincome
      obtain rfl := Fallible.pure_eq_ok.mp hincome
      exact Income.response iceMsg obsId obs hsignaling hreceiver
  | server =>
      rw [hreceiver] at hincome
      exact Income.server iceMsg obsId result hsignaling hreceiver hincome

theorem income_of_incomeStun {result : IceObserverStrage × IoContext}
    (hmsg : IceMessage.ofMessage msg = some iceMsg)
    (hprotocol : iceMsg.getProtocol = .stun)
    (hincome : agent.incomeStun platform io iceMsg ep = .ok result) :
    Income platform agent table io id msg ep (agent.withStrage result.1, result.2) := by
  rw [incomeStun, Fallible.bind_eq_ok] at hincome
  obtain ⟨obsId, hobsId, hincome⟩ := hincome
  have hstun : IceMessage.ofProtocol platform .stun msg = some (iceMsg, obsId) :=
    IceMessage.ofProtocol_eq_some_iff.mpr ⟨hmsg, hobsId, hprotocol⟩
  cases hfind : agent.obsStrage.bindings.find obsId with
  | some obs =>
      simp only [hfind, Fallible.bind_eq_ok, Fallible.pure_eq_ok] at hincome
      obtain ⟨globalEp, hglobalEp, rfl⟩ := hincome
      exact Income.reply iceMsg obsId obs globalEp hstun hfind hglobalEp
  | none =>
      simp only [hfind, Fallible.bind_eq_ok, Fallible.pure_eq_ok] at hincome
      obtain ⟨nextIo, hserver, rfl⟩ := hincome
      exact Income.stun iceMsg obsId nextIo hstun hfind hserver

theorem income_of_incomeMessage {result : IceAgent × IoContext}
    (hincome : agent.incomeMessage platform table io id msg ep = .ok result) :
    Income platform agent table io id msg ep result := by
  rw [incomeMessage] at hincome
  cases hparam : msg.getParam "ice_agent" with
  | none =>
      rw [hparam] at hincome
      obtain rfl := Fallible.pure_eq_ok.mp hincome
      apply Income.other
      · simp [IceMessage.ofProtocol, IceMessage.ofMessage, hparam]
      · simp [IceMessage.ofProtocol, IceMessage.ofMessage, hparam]
  | some iceParam =>
      simp only [hparam, Fallible.bind_eq_ok] at hincome
      obtain ⟨iceMsg, hofJson, hincome⟩ := hincome
      have hmsg : IceMessage.ofMessage msg = some iceMsg := by
        simp [IceMessage.ofMessage, hparam, hofJson, Except.toOption]
      cases hprotocol : iceMsg.getProtocol with
      | signaling =>
          simp only [hprotocol, Fallible.bind_eq_ok, Fallible.pure_eq_ok] at hincome
          obtain ⟨answer, hsignaling, rfl⟩ := hincome
          exact income_of_incomeSignaling hmsg hprotocol hsignaling
      | stun =>
          simp only [hprotocol, Fallible.bind_eq_ok, Fallible.pure_eq_ok] at hincome
          obtain ⟨answer, hstun, rfl⟩ := hincome
          exact income_of_incomeStun hmsg hprotocol hstun
      | none =>
          simp only [hprotocol, Fallible.pure_eq_ok] at hincome
          obtain rfl := hincome
          apply Income.other
          · exact IceMessage.ofProtocol_eq_none_of_ne (by decide) hmsg hprotocol
          · exact IceMessage.ofProtocol_eq_none_of_ne (by decide) hmsg hprotocol

/-- The message of an observer is given to it. -/
theorem incomeMessage_of_request {obsId : Uuid} {obs : SignalingRequest} {nextIo : IoContext}
    (hsignaling : IceMessage.ofProtocol platform .signaling msg = some (iceMsg, obsId))
    (hreceiver : agent.obsStrage.signalingReceiver obsId = .request obs)
    (hincome : obs.incomeMessage platform agent.selfEp io iceMsg = .ok nextIo)
    (table : KRoutingTable) (id : Uuid) (ep : Endpoint) :
    agent.incomeMessage platform table io id msg ep = .ok (agent, nextIo) := by
  obtain ⟨hmsg, hobsId, hprotocol⟩ := IceMessage.ofProtocol_eq_some_iff.mp hsignaling
  obtain ⟨iceParam, hparam, hofJson⟩ := Option.bind_eq_some_iff.mp hmsg
  rw [Fallible.toOption_eq_some_iff] at hofJson
  have hanswer : agent.incomeSignaling platform table io id iceMsg =
      .ok (agent.obsStrage, nextIo) := by
    simp only [incomeSignaling, hobsId, Fallible.ok_bind, hreceiver, hincome]
    rfl
  simp only [incomeMessage, hparam, hofJson, Fallible.ok_bind, hprotocol, hanswer]
  rfl

end IceAgent

namespace SignalingServer

variable {platform : Platform} {selfEp : Endpoint} {table : KRoutingTable}

/-- The server only sends and marks the message as handled. -/
structure MarksOnly (strage next : IceObserverStrage) (io nextIo : IoContext) : Prop where
  requests : next.requests = strage.requests
  bindings : next.bindings = strage.bindings
  pending : nextIo.pending = io.pending

theorem pending_sendAll (io : IoContext) (iceMsg : IceMessage) (eps : List Endpoint) :
    (sendAll io iceMsg eps).pending = io.pending := by
  rw [sendAll_eq]
  rfl

theorem marksOnly_of_incomeMessage {strage : IceObserverStrage} {io : IoContext}
    {id : Uuid} {iceMsg : IceMessage} {result : IceObserverStrage × IoContext}
    (hincome : incomeMessage platform selfEp table strage io id iceMsg = .ok result) :
    MarksOnly strage result.1 io result.2 := by
  cases handling_of_incomeMessage hincome with
  | answered srcEp hanswers hsrc => exact ⟨rfl, rfl, pending_sendAll io _ _⟩
  | handedOn copy added eps hhandsOn hcopy heps => exact ⟨rfl, rfl, pending_sendAll io _ _⟩
  | kept hanswers hhandsOn next hnext =>
      cases hnext with
      | inl hsame =>
          rw [hsame]
          exact ⟨rfl, rfl, rfl⟩
      | inr hmarked =>
          rw [hmarked]
          exact ⟨rfl, rfl, rfl⟩

/-- The server stores at most one observer, under the id that it draws. -/
theorem strage_of_incomeMessage {strage : IceObserverStrage} {io : IoContext} {id : Uuid}
    {iceMsg : IceMessage} {result : IceObserverStrage × IoContext}
    (hincome : incomeMessage platform selfEp table strage io id iceMsg = .ok result) :
    result.1 = strage ∨ result.1 = strage.addRelay (.make id io.now) ∨
      result.1 = strage.addResponse (.make id io.now) := by
  cases handling_of_incomeMessage hincome with
  | answered srcEp hanswers hsrc => exact Or.inr (Or.inr rfl)
  | handedOn copy added eps hhandsOn hcopy heps => exact Or.inr (Or.inl rfl)
  | kept hanswers hhandsOn next hnext => exact hnext.imp_right Or.inl

/-- `signaling_send` starts no timer and stores no `binding_request`. -/
theorem signalingSend_keeps (platform : Platform) (selfEp : Endpoint)
    (table : KRoutingTable) (strage : IceObserverStrage) (io : IoContext) (id : Uuid)
    (destEp : Endpoint) (rootParam : String) (payload : Json) :
    (signalingSend platform selfEp table strage io id destEp rootParam payload).1.bindings =
        strage.bindings ∧
      (signalingSend platform selfEp table strage io id destEp rootParam payload).2.pending =
        io.pending := by
  rw [signalingSend]
  split_ifs
  · exact ⟨rfl, rfl⟩
  · exact ⟨rfl, pending_sendAll _ _ _⟩

end SignalingServer

namespace BindingRequest

/-- The handler is among what a reply hands over if it was still to be posted. -/
theorem pending_settle {obs : BindingRequest} {cctx : ConsensusCtx}
    (hdecided : cctx.state ≠ .onHandling) (io : IoContext) :
    (obs.settle cctx io).pending =
      if obs.callsHandler then .srHandler obs.id cctx.ep ::ₘ io.pending
      else io.pending := by
  rw [settle, if_neg hdecided, IoContext.pending_cancel]
  split_ifs
  · exact IoContext.pending_post io _
  · rfl

/-- A reply hands over the handler at most. -/
theorem pending_answer_cases (platform : Platform) (srcEp responseEp : Endpoint)
    (obs : BindingRequest) (io : IoContext) :
    (obs.answer platform srcEp responseEp io).pending = io.pending ∨
      ∃ ep, (obs.answer platform srcEp responseEp io).pending =
        .srHandler obs.id ep ::ₘ io.pending := by
  rw [answer]
  set replied := obs.addResponse srcEp responseEp
  by_cases hopen : (replied.consensus platform false).state = .onHandling
  · rw [settle, if_pos hopen]
    exact Or.inl rfl
  · have hpending : (replied.settle (replied.consensus platform false) io).pending = _ :=
      pending_settle hopen io
    split_ifs at hpending
    · exact Or.inr ⟨_, hpending⟩
    · exact Or.inl hpending

theorem pending_onTimeout (platform : Platform) (obs : BindingRequest) (io : IoContext) :
    (obs.onTimeout platform io).pending =
      if obs.callsHandler then
        .srHandler obs.id (obs.consensus platform false).ep ::ₘ io.pending
      else io.pending := by
  rw [onTimeout]
  split_ifs
  · exact IoContext.pending_post io _
  · rfl

end BindingRequest

namespace StunServer

/-- A `binding_request` with its timer is added, unless there is no node to ask. -/
theorem bindingRequest_cases (platform : Platform) (strage : IceObserverStrage)
    (io : IoContext) (table : KRoutingTable) (id : Uuid) (targetNodes : List Endpoint)
    (reliability : ℕ) :
    bindingRequest platform strage io table id targetNodes reliability = (strage, io) ∨
      ∃ obs nextIo, bindingRequest platform strage io table id targetNodes reliability =
          ({ strage with bindings := strage.bindings.insert obs }, nextIo) ∧
        obs.id = id ∧ obs.isHandlerCalled = false ∧
        nextIo.pending = .bindingTimeout id ::ₘ io.pending := by
  rw [bindingRequest]
  dsimp only
  split_ifs
  · exact Or.inl rfl
  · refine Or.inr ⟨_, _, rfl, ?_, ?_, ?_⟩
    · rw [BindingRequest.foldl_addRequestedEp]
      rfl
    · rw [BindingRequest.foldl_addRequestedEp]
      rfl
    · rw [SignalingServer.pending_sendAll]
      exact IoContext.pending_asyncWait io _ _

theorem pending_of_incomeMessage {platform : Platform} {io nextIo : IoContext}
    {iceMsg : IceMessage} {ep : Endpoint}
    (hincome : incomeMessage platform io iceMsg ep = .ok nextIo) :
    nextIo.pending = io.pending := by
  rw [incomeMessage, Fallible.bind_eq_ok] at hincome
  obtain ⟨subProtocol, -, hincome⟩ := hincome
  split_ifs at hincome
  · rw [← Fallible.pure_eq_ok.mp hincome]
    exact SignalingServer.pending_sendAll io _ _
  · rw [← Fallible.pure_eq_ok.mp hincome]

end StunServer

namespace SignalingRequest

/-- What the cached message waits for: a response, or the request itself. -/
def Triggers (platform : Platform) (selfEp : Endpoint) (iceMsg : IceMessage) : Prop :=
  iceMsg.getSubProtocol platform = .ok SignalingSubProtocol.response.code ∨
    (iceMsg.getSubProtocol platform).isOk = true ∧
      iceMsg.getDestEndpoint platform = .ok selfEp

instance (platform : Platform) (selfEp : Endpoint) (iceMsg : IceMessage) :
    Decidable (Triggers platform selfEp iceMsg) :=
  inferInstanceAs (Decidable (_ ∨ _))

variable {platform : Platform} {obs : SignalingRequest} {selfEp : Endpoint}
  {io nextIo : IoContext} {iceMsg : IceMessage}

theorem incomeMessage_of_triggers (hdone : obs.done = false)
    (htriggers : Triggers platform selfEp iceMsg) (io : IoContext) :
    obs.incomeMessage platform selfEp io iceMsg = .ok (obs.sendCache io) := by
  rw [incomeMessage, hdone, if_neg Bool.false_ne_true]
  rcases htriggers with hresponse | ⟨hreads, hself⟩
  · rw [hresponse, Fallible.ok_bind, if_pos rfl]
    rfl
  · obtain ⟨subProtocol, hsubProtocol⟩ := Fallible.isOk_iff.mp hreads
    rw [hsubProtocol, Fallible.ok_bind, hself, Fallible.ok_bind, if_neg (not_not.mpr rfl)]
    exact ite_self _

/-- The observer sends its message when a triggering message arrives before it knows that
the message was sent. -/
theorem eq_of_incomeMessage
    (hincome : obs.incomeMessage platform selfEp io iceMsg = .ok nextIo) :
    nextIo = if obs.done = false ∧ Triggers platform selfEp iceMsg then obs.sendCache io
      else io := by
  by_cases htriggers : obs.done = false ∧ Triggers platform selfEp iceMsg
  · rw [if_pos htriggers]
    rw [incomeMessage_of_triggers htriggers.1 htriggers.2 io] at hincome
    exact (Except.ok.inj hincome).symm
  · rw [if_neg htriggers]
    rw [incomeMessage] at hincome
    cases hdone : obs.done with
    | true =>
        rw [hdone, if_pos rfl] at hincome
        exact (Fallible.pure_eq_ok.mp hincome).symm
    | false =>
        rw [hdone, if_neg Bool.false_ne_true, Fallible.bind_eq_ok] at hincome
        obtain ⟨subProtocol, hsubProtocol, hincome⟩ := hincome
        have hnot : ¬ Triggers platform selfEp iceMsg := fun h => htriggers ⟨hdone, h⟩
        have hresponse : subProtocol ≠ SignalingSubProtocol.response.code :=
          fun heq => hnot (Or.inl (heq ▸ hsubProtocol))
        rw [if_neg hresponse, Fallible.bind_eq_ok] at hincome
        obtain ⟨destEp, hdestEp, hincome⟩ := hincome
        have hself : destEp ≠ selfEp := fun heq =>
          hnot (Or.inr ⟨Fallible.isOk_iff.mpr ⟨_, hsubProtocol⟩, heq ▸ hdestEp⟩)
        rw [if_pos hself] at hincome
        exact (Fallible.pure_eq_ok.mp hincome).symm

end SignalingRequest

namespace IceLoop

theorem receive_eq_some {platform : Platform} {loop next : IceLoop} {id : Uuid}
    {msg : Message} {ep : Endpoint} (hreceive : loop.receive platform id msg ep = some next) :
    ∃ result, loop.agent.Income platform loop.table loop.io id msg ep result ∧
      next = loop.received platform id msg ep result := by
  rw [receive] at hreceive
  cases hincome : loop.agent.incomeMessage platform loop.table loop.io id msg ep with
  | error fault => simp [hincome] at hreceive
  | ok result =>
      rw [hincome] at hreceive
      exact ⟨result, IceAgent.income_of_incomeMessage hincome,
        (Option.some.inj hreceive).symm⟩

section Steps

variable {platform : Platform} {loop next : IceLoop}

theorem of_step_signalingSend {drawn : Uuid} {destEp : Endpoint} {rootParam : String}
    {payload : Json}
    (hstep : loop.step platform (.signalingSend drawn destEp rootParam payload) = some next) :
    drawn ∉ loop.issued ∧ loop.signalingSend platform drawn destEp rootParam payload = next := by
  rw [step] at hstep
  split_ifs at hstep with hissued
  exact ⟨hissued, Option.some.inj hstep⟩

theorem of_step_bindingRequest {drawn : Uuid} {targetNodes : List Endpoint}
    {reliability : ℕ} {isAsync : Bool}
    (hstep : loop.step platform (.bindingRequest drawn targetNodes reliability isAsync) =
      some next) :
    drawn ∉ loop.issued ∧
      loop.bindingRequest platform drawn targetNodes reliability isAsync = next := by
  rw [step] at hstep
  split_ifs at hstep with hissued
  exact ⟨hissued, Option.some.inj hstep⟩

theorem of_step_receive {drawn : Uuid} {msg : Message} {ep : Endpoint}
    (hstep : loop.step platform (.receive drawn msg ep) = some next) :
    drawn ∉ loop.issued ∧ loop.receive platform drawn msg ep = some next := by
  rw [step] at hstep
  split_ifs at hstep with hissued
  exact ⟨hissued, hstep⟩

/-- What a callback of the layer does, for an observer that is stored. -/
inductive Ran (platform : Platform) (loop : IceLoop) : Callback → IceLoop → Prop
  | bindingTimeout (obs : BindingRequest)
      (hfind : loop.strage.bindings.find obs.id = some obs) :
      Ran platform loop (.bindingTimeout obs.id) (loop.bindingTimeout platform obs)
  | srHandler (obsId : Uuid) (ep : Option Endpoint) :
      Ran platform loop (.srHandler obsId ep) (loop.srHandler ep)
  | traversalDone (obs : SignalingRequest)
      (hfind : loop.strage.requests.find obs.id = some obs) :
      Ran platform loop (.traversalDone obs.id)
        (loop.withStrage (loop.strage.finishTraversal obs.id))

/-- No other callback is run. -/
theorem ran_of_runCallback {callback : Callback}
    (hrun : loop.runCallback platform callback = some next) :
    Ran platform loop callback next := by
  cases callback with
  | bindingTimeout obsId =>
      obtain ⟨obs, hfind, rfl⟩ := Option.map_eq_some_iff.mp hrun
      obtain rfl : obs.id = obsId := KeyedList.key_of_find hfind
      exact .bindingTimeout obs hfind
  | srHandler obsId ep =>
      obtain ⟨obs, hfind, rfl⟩ := Option.map_eq_some_iff.mp hrun
      exact .srHandler obsId ep
  | traversalDone obsId =>
      obtain ⟨obs, hfind, rfl⟩ := Option.map_eq_some_iff.mp hrun
      obtain rfl : obs.id = obsId := KeyedList.key_of_find hfind
      exact .traversalDone obs hfind
  | _ => cases hrun

end Steps

/-- The callbacks handed to the event loop, those that were run included. -/
def handed (loop : IceLoop) : Multiset Callback :=
  (loop.history.ran : Multiset Callback) + loop.io.pending

theorem handed_eq {loop next : IceLoop} (hran : next.history.ran = loop.history.ran)
    (hpending : next.io.pending = loop.io.pending) : next.handed = loop.handed := by
  rw [handed, handed, hran, hpending]

theorem handed_eq_cons {loop next : IceLoop} {callback : Callback}
    (hran : next.history.ran = loop.history.ran)
    (hpending : next.io.pending = callback ::ₘ loop.io.pending) :
    next.handed = callback ::ₘ loop.handed := by
  rw [handed, handed, hran, hpending, Multiset.add_cons]

section Received

variable {platform : Platform} {loop : IceLoop} {drawn : Uuid} {msg : Message}
  {ep : Endpoint} {result : IceAgent × IoContext}

theorem handed_received_eq (hpending : result.2.pending = loop.io.pending) :
    (loop.received platform drawn msg ep result).handed = loop.handed :=
  handed_eq rfl hpending

theorem handed_received_cons {callback : Callback}
    (hpending : result.2.pending = callback ::ₘ loop.io.pending) :
    (loop.received platform drawn msg ep result).handed = callback ::ₘ loop.handed :=
  handed_eq_cons rfl hpending

end Received

/-- Running a callback hands nothing over. -/
theorem handed_log_take {loop : IceLoop} {position : ℕ} {callback : Callback}
    {io : IoContext} (htake : loop.io.take position = some (callback, io)) :
    (({ loop with io := io } : IceLoop).log callback).handed = loop.handed := by
  rw [handed, handed, IoContext.pending_take htake]
  simp only [log, ← Multiset.coe_add, Multiset.coe_singleton]
  rw [add_assoc, Multiset.singleton_add]

/-- A new binding request starts its timer, unless there is no node to ask. -/
theorem handed_bindingRequest (platform : Platform) (loop : IceLoop) (drawn : Uuid)
    (targetNodes : List Endpoint) (reliability : ℕ) (isAsync : Bool) :
    (loop.bindingRequest platform drawn targetNodes reliability isAsync).handed =
        loop.handed ∨
      (loop.bindingRequest platform drawn targetNodes reliability isAsync).handed =
        .bindingTimeout drawn ::ₘ loop.handed := by
  rw [bindingRequest]
  rcases StunServer.bindingRequest_cases platform loop.strage loop.io loop.table drawn
    targetNodes reliability with hnone | ⟨obs, nextIo, hsome, -, -, hpending⟩
  · rw [hnone]
    cases isAsync with
    | false => exact Or.inl rfl
    | true => exact Or.inl rfl
  · rw [hsome]
    cases isAsync with
    | false => exact Or.inr (handed_eq_cons rfl hpending)
    | true => exact Or.inr (handed_eq_cons rfl hpending)

structure KeepsSignaling (strage next : IceObserverStrage) : Prop where
  requests : next.requests = strage.requests
  responses : next.responses = strage.responses
  relays : next.relays = strage.relays

theorem keeps_bindingRequest (platform : Platform) (loop : IceLoop) (drawn : Uuid)
    (targetNodes : List Endpoint) (reliability : ℕ) (isAsync : Bool) :
    let next := loop.bindingRequest platform drawn targetNodes reliability isAsync
    KeepsSignaling loop.strage next.strage ∧ next.history.ran = loop.history.ran ∧
      next.issued = drawn :: loop.issued := by
  dsimp only
  rw [bindingRequest]
  rcases StunServer.bindingRequest_cases platform loop.strage loop.io loop.table drawn
    targetNodes reliability with hnone | ⟨obs, nextIo, hsome, -⟩
  · rw [hnone]
    cases isAsync <;> exact ⟨⟨rfl, rfl, rfl⟩, rfl, rfl⟩
  · rw [hsome]
    cases isAsync <;> exact ⟨⟨rfl, rfl, rfl⟩, rfl, rfl⟩

end IceLoop

end SsP2p.Ice

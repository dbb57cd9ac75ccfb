import SsP2p.Core.IoContext
import SsP2p.Core.Observer
import SsP2p.Ice.GlobalEpConsensus
import SsP2p.Ice.IceMessage
import SsP2p.Kademlia.DirectRoutingTableController
import SsP2p.Lib.KeyedList

/-!
# ICE observers

The three signaling observers, the `binding_request` of STUN, and their storage.
A `signaling_request` keeps the message that it is to send when the traversal
succeeds; a `signaling_response` or `signaling_relay` only remembers that a
message was handled; a `binding_request` collects the replies of the election.
-/

namespace SsP2p.Ice

open Kademlia

abbrev defaultBindingRequestTimeout : ℕ := 4

/-- The number of nodes a signaling message is handed to. -/
abbrev signalingFanOut : ℕ := 3

/-! ## Signaling observers -/

/-- `signaling_request`; the last three fields are `_msg_cache`. -/
structure SignalingRequest where
  base : BaseObserver
  done : Bool
  ep : Endpoint
  param : String
  payload : Json

namespace SignalingRequest

def id (obs : SignalingRequest) : Uuid := obs.base.id

/-- The observer that `signaling_send` makes. -/
def make (id : Uuid) (now : ℕ) (destEp : Endpoint) (param : String)
    (payload : Json) : SignalingRequest :=
  ⟨.make id now, false, destEp, param, payload⟩

def requestMessage (platform : Platform) (obs : SignalingRequest)
    (selfEp : Endpoint) : IceMessage :=
  let iceMsg := (IceMessage.make .signaling).setObserverId platform obs.id
  let iceMsg := iceMsg.setSignalingSubProtocol .request
  (iceMsg.setDestEndpoint platform obs.ep).setSrcEndpoint platform selfEp

/-- What `init` sends: a dummy to the destination, then the request. -/
def init (platform : Platform) (obs : SignalingRequest) (selfEp : Endpoint)
    (table : KRoutingTable) (io : IoContext) : IoContext :=
  let io := io.asyncSend obs.ep "dummy" (.string "signaling dummy")
  let iceMsg := obs.requestMessage platform selfEp
  (table.collectEndpoint platform obs.ep signalingFanOut []).foldl
    (fun io ep => io.asyncSend ep "ice_agent" iceMsg.encode) io

/-- Send the cached message; `on_traversal_done` runs when that is done. -/
def sendCache (obs : SignalingRequest) (io : IoContext) : IoContext :=
  (io.asyncSend obs.ep obs.param obs.payload).post (.traversalDone obs.id)

/-- What `on_traversal_done` leaves of the observer. -/
def traversalDone (obs : SignalingRequest) : SignalingRequest :=
  { obs with done := true }

def incomeMessage (platform : Platform) (obs : SignalingRequest)
    (selfEp : Endpoint) (io : IoContext) (iceMsg : IceMessage) :
    Except Fault IoContext :=
  if obs.done then return io
  else do
    let subProtocol ← iceMsg.getSubProtocol platform
    if subProtocol = SignalingSubProtocol.response.code then
      return obs.sendCache io
    else do
      let destEp ← iceMsg.getDestEndpoint platform
      if destEp ≠ selfEp then return io
      else return obs.sendCache io

@[simp]
theorem id_make (id : Uuid) (now : ℕ) (destEp : Endpoint) (param : String)
    (payload : Json) : (make id now destEp param payload).id = id := rfl

@[simp]
theorem id_traversalDone (obs : SignalingRequest) : obs.traversalDone.id = obs.id :=
  rfl

end SignalingRequest

/-- `signaling_response` and `signaling_relay`: nothing but a `base_observer`. -/
structure SignalingMark where
  base : BaseObserver
  deriving DecidableEq

namespace SignalingMark

def id (obs : SignalingMark) : Uuid := obs.base.id

def make (id : Uuid) (now : ℕ) : SignalingMark := ⟨.make id now⟩

/-- `income_message` of either. -/
def extended (now : ℕ) (obs : SignalingMark) : SignalingMark :=
  ⟨obs.base.extendExpireAt now defaultExpireTime⟩

@[simp]
theorem id_make (id : Uuid) (now : ℕ) : (make id now).id = id := rfl

@[simp]
theorem id_extended (now : ℕ) (obs : SignalingMark) :
    (obs.extended now).id = obs.id := rfl

end SignalingMark

/-! ## STUN -/

inductive SrState where
  | done
  | pending
  | notfound
  deriving DecidableEq

structure SrObject where
  globalEp : Endpoint
  state : SrState
  isAsync : Bool
  deriving DecidableEq

namespace SrObject

def make : SrObject := ⟨.unspecified, .notfound, false⟩

def asyncGet (sr : SrObject) : SrObject := { sr with isAsync := true }

/-- `update_state`: everything but `done` with an endpoint becomes `notfound`. -/
def updateState (sr : SrObject) (s : SrState) (ep : Option Endpoint) : SrObject :=
  match s, ep with
  | .done, some ep => { sr with state := .done, globalEp := ep }
  | _, _ => { sr with state := .notfound }

/-- What `sync_get` returns when it does not wait. -/
def result (sr : SrObject) : Option Endpoint :=
  match sr.state with
  | .done => some sr.globalEp
  | .pending | .notfound => none

@[simp]
theorem isAsync_updateState (sr : SrObject) (s : SrState) (ep : Option Endpoint) :
    (sr.updateState s ep).isAsync = sr.isAsync := by
  cases s with
  | done => cases ep <;> rfl
  | pending => rfl
  | notfound => rfl

end SrObject

structure BindingRequest where
  base : BaseObserver
  responses : Responses
  sr : SrObject
  isHandlerCalled : Bool
  isTimeout : Bool
  deriving DecidableEq

namespace BindingRequest

def id (obs : BindingRequest) : Uuid := obs.base.id

/-- The constructor, then `init` with a new `sr_object`. -/
def make (id : Uuid) (now : ℕ) : BindingRequest :=
  ⟨.make id now, [], SrObject.make.updateState .pending none, false, false⟩

def init (obs : BindingRequest) (io : IoContext) : IoContext :=
  io.asyncWait defaultBindingRequestTimeout (.bindingTimeout obs.id)

def addRequestedEp (ep : Endpoint) (obs : BindingRequest) : BindingRequest :=
  { obs with responses := obs.responses.addRequestedEp ep }

def addResponse (srcEp responseEp : Endpoint) (obs : BindingRequest) :
    BindingRequest :=
  { obs with responses := obs.responses.addResponse srcEp responseEp }

/-- `global_ep_consensus`, which never reads the front of an empty vector. -/
def consensus (platform : Platform) (obs : BindingRequest) (isForce : Bool) :
    ConsensusCtx :=
  (obs.responses.globalEpConsensus platform.counterSort isForce).get
    (Option.isSome_iff_ne_none.mpr
      (Responses.globalEpConsensus_ne_none platform.counterSort obs.responses isForce))

def updateSr (obs : BindingRequest) (cctx : ConsensusCtx) : BindingRequest :=
  match cctx.state with
  | .done => { obs with sr := obs.sr.updateState .done cctx.ep }
  | .errorDone => { obs with sr := obs.sr.updateState .notfound none }
  | .onHandling => { obs with sr := obs.sr.updateState .pending none }

/-- Whether the handler of the `sr_object` is still to be posted. -/
def callsHandler (obs : BindingRequest) : Bool :=
  obs.sr.isAsync && !obs.isHandlerCalled

/-- What `income_message` leaves of the observer after the reply is stored. -/
def settled (cctx : ConsensusCtx) (obs : BindingRequest) : BindingRequest :=
  if cctx.state = .onHandling then obs
  else
    { obs.updateSr cctx with
      base := obs.base.destructSelf
      isHandlerCalled := obs.isHandlerCalled || obs.sr.isAsync }

/-- What `income_message` hands to the event loop after the reply is stored. -/
def settle (cctx : ConsensusCtx) (obs : BindingRequest) (io : IoContext) :
    IoContext :=
  if cctx.state = .onHandling then io
  else
    (if obs.callsHandler then io.post (.srHandler obs.id cctx.ep) else io).cancel
      (· = .bindingTimeout obs.id)

def asyncGet (obs : BindingRequest) : BindingRequest := { obs with sr := obs.sr.asyncGet }

/-- What `on_timeout` leaves of the observer. -/
def timedOut (platform : Platform) (obs : BindingRequest) : BindingRequest :=
  { obs.updateSr (obs.consensus platform false) with
    isHandlerCalled := obs.isHandlerCalled || obs.sr.isAsync
    isTimeout := true }

/-- What `on_timeout` hands to the event loop. -/
def onTimeout (platform : Platform) (obs : BindingRequest) (io : IoContext) : IoContext :=
  if obs.callsHandler then
    io.post (.srHandler obs.id (obs.consensus platform false).ep)
  else io

def answered (platform : Platform) (srcEp responseEp : Endpoint)
    (obs : BindingRequest) : BindingRequest :=
  let obs := obs.addResponse srcEp responseEp
  obs.settled (obs.consensus platform false)

def answer (platform : Platform) (srcEp responseEp : Endpoint)
    (obs : BindingRequest) (io : IoContext) : IoContext :=
  let obs := obs.addResponse srcEp responseEp
  obs.settle (obs.consensus platform false) io

@[simp]
theorem id_make (id : Uuid) (now : ℕ) : (make id now).id = id := rfl

@[simp]
theorem id_addRequestedEp (ep : Endpoint) (obs : BindingRequest) :
    (obs.addRequestedEp ep).id = obs.id := rfl

/-- The requested nodes only add entries to the responses. -/
theorem foldl_addRequestedEp (eps : List Endpoint) (obs : BindingRequest) :
    eps.foldl (fun obs ep => obs.addRequestedEp ep) obs =
      { obs with responses := obs.responses ++ eps.map (·, none) } := by
  induction eps generalizing obs with
  | nil => simp
  | cons ep eps ih =>
      rw [List.foldl_cons, ih]
      simp [addRequestedEp, Responses.addRequestedEp]

@[simp]
theorem id_answered (platform : Platform) (srcEp responseEp : Endpoint)
    (obs : BindingRequest) : (obs.answered platform srcEp responseEp).id = obs.id := by
  simp only [answered, settled]
  split
  · rfl
  · rfl

@[simp]
theorem id_asyncGet (obs : BindingRequest) : obs.asyncGet.id = obs.id := rfl

@[simp]
theorem id_updateSr (obs : BindingRequest) (cctx : ConsensusCtx) :
    (obs.updateSr cctx).id = obs.id := by
  rw [updateSr]
  split <;> rfl

@[simp]
theorem id_timedOut (platform : Platform) (obs : BindingRequest) :
    (obs.timedOut platform).id = obs.id :=
  obs.id_updateSr _

@[simp]
theorem isAsync_updateSr (obs : BindingRequest) (cctx : ConsensusCtx) :
    (obs.updateSr cctx).sr.isAsync = obs.sr.isAsync := by
  rw [updateSr]
  split <;> exact SrObject.isAsync_updateState _ _ _

@[simp]
theorem responses_updateSr (obs : BindingRequest) (cctx : ConsensusCtx) :
    (obs.updateSr cctx).responses = obs.responses := by
  rw [updateSr]
  split <;> rfl

@[simp]
theorem isTimeout_updateSr (obs : BindingRequest) (cctx : ConsensusCtx) :
    (obs.updateSr cctx).isTimeout = obs.isTimeout := by
  rw [updateSr]
  split <;> rfl

@[simp]
theorem responses_answered (platform : Platform) (srcEp responseEp : Endpoint)
    (obs : BindingRequest) :
    (obs.answered platform srcEp responseEp).responses =
      obs.responses.addResponse srcEp responseEp := by
  simp only [answered, settled]
  split
  · rfl
  · exact responses_updateSr _ _

/-! ### The consensus -/

section Consensus

variable (platform : Platform)

theorem some_consensus (obs : BindingRequest) (isForce : Bool) :
    some (obs.consensus platform isForce) =
      obs.responses.globalEpConsensus platform.counterSort isForce :=
  Option.some_get _

/-- Without force the consensus is an elected endpoint, or still open. -/
theorem consensus_false_cases (obs : BindingRequest) :
    obs.consensus platform false = ⟨.onHandling, none⟩ ∨
      ∃ ep, obs.consensus platform false = ⟨.done, some ep⟩ := by
  have hconsensus := obs.some_consensus platform false
  rw [Responses.globalEpConsensus_false] at hconsensus
  split_ifs at hconsensus
  · obtain ⟨ep, -, hep⟩ := Option.map_eq_some_iff.mp hconsensus.symm
    exact Or.inr ⟨ep, hep.symm⟩
  · exact Or.inl (Option.some.inj hconsensus)

variable {platform} {obs : BindingRequest}

/-- Without an endpoint the consensus is open, and the `sr_object` not found. -/
theorem updateSr_of_none (hnone : (obs.consensus platform false).ep = none) :
    (obs.consensus platform false).state = .onHandling ∧
      (obs.updateSr (obs.consensus platform false)).sr.state = .notfound := by
  cases obs.consensus_false_cases platform with
  | inl hopen =>
      rw [hopen]
      exact ⟨rfl, rfl⟩
  | inr hdone =>
      obtain ⟨ep, hdone⟩ := hdone
      rw [hdone] at hnone
      cases hnone

theorem updateSr_of_some {ep : Endpoint}
    (hsome : (obs.consensus platform false).ep = some ep) :
    (obs.consensus platform false).state = .done ∧
      (obs.updateSr (obs.consensus platform false)).sr.state = .done ∧
      (obs.updateSr (obs.consensus platform false)).sr.globalEp = ep := by
  cases obs.consensus_false_cases platform with
  | inl hopen =>
      rw [hopen] at hsome
      cases hsome
  | inr hdone =>
      obtain ⟨winner, hdone⟩ := hdone
      rw [hdone] at hsome ⊢
      obtain rfl := Option.some.inj hsome
      exact ⟨rfl, rfl, rfl⟩

end Consensus

end BindingRequest

/-! ## The storage -/

structure IceObserverStrage where
  requests : KeyedList SignalingRequest.id
  responses : KeyedList SignalingMark.id
  relays : KeyedList SignalingMark.id
  bindings : KeyedList BindingRequest.id

namespace IceObserverStrage

def empty : IceObserverStrage := ⟨.empty, .empty, .empty, .empty⟩

def addRequest (strage : IceObserverStrage) (obs : SignalingRequest) :
    IceObserverStrage :=
  { strage with requests := strage.requests.insert obs }

def addResponse (strage : IceObserverStrage) (obs : SignalingMark) :
    IceObserverStrage :=
  { strage with responses := strage.responses.insert obs }

def addRelay (strage : IceObserverStrage) (obs : SignalingMark) :
    IceObserverStrage :=
  { strage with relays := strage.relays.insert obs }

def extendRelay (strage : IceObserverStrage) (now : ℕ) (id : Uuid) :
    IceObserverStrage :=
  { strage with
    relays := strage.relays.modify id (.extended now) (SignalingMark.id_extended now) }

def extendResponse (strage : IceObserverStrage) (now : ℕ) (id : Uuid) :
    IceObserverStrage :=
  { strage with
    responses :=
      strage.responses.modify id (.extended now) (SignalingMark.id_extended now) }

def answerBinding (strage : IceObserverStrage) (platform : Platform)
    (srcEp responseEp : Endpoint) (id : Uuid) : IceObserverStrage :=
  { strage with
    bindings := strage.bindings.modify id (.answered platform srcEp responseEp)
      (BindingRequest.id_answered platform srcEp responseEp) }

/-- `async_get` is called on the `sr_object` of a `binding_request`. -/
def asyncGetBinding (strage : IceObserverStrage) (id : Uuid) : IceObserverStrage :=
  { strage with
    bindings := strage.bindings.modify id .asyncGet BindingRequest.id_asyncGet }

def timeOutBinding (strage : IceObserverStrage) (platform : Platform) (id : Uuid) :
    IceObserverStrage :=
  { strage with
    bindings := strage.bindings.modify id (.timedOut platform)
      (BindingRequest.id_timedOut platform) }

def finishTraversal (strage : IceObserverStrage) (id : Uuid) : IceObserverStrage :=
  { strage with
    requests := strage.requests.modify id .traversalDone
      SignalingRequest.id_traversalDone }

def deleteExpires (strage : IceObserverStrage) (now : ℕ) : IceObserverStrage where
  requests := strage.requests.filter fun obs => !obs.base.isExpired now
  responses := strage.responses.filter fun obs => !obs.base.isExpired now
  relays := strage.relays.filter fun obs => !obs.base.isExpired now
  bindings := strage.bindings.filter fun obs => !obs.base.isExpired now

end IceObserverStrage

end SsP2p.Ice

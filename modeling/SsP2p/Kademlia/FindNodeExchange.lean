import SsP2p.Kademlia.Dispatch
import SsP2p.Kademlia.RequestOutcome

/-!
# The find_node exchange

What a find_node request and its answer say, what the responder and the requester do on
them, and how the calls of the response handler move from the queue to those made.
-/

namespace SsP2p.Kademlia

namespace KMessage

variable (platform : Platform)

def findNodeRequestBody (id : Uuid) (ignoreEps : List Endpoint) : Json :=
  .object [("type", .string "request"), ("rpc", .string "find_node"),
    ("observer_id", .string (platform.uuidToString id)),
    ("ignore_eps", endpointTexts platform ignoreEps)]

def findNodeResponseBody (id : Uuid) (ignoreEps findedEps : List Endpoint) : Json :=
  .object [("type", .string "response"), ("rpc", .string "find_node"),
    ("observer_id", .string (platform.uuidToString id)),
    ("ignore_eps", endpointTexts platform ignoreEps),
    ("finded_eps", endpointTexts platform findedEps)]

variable {platform}

theorem getEndpoints_of_subscript (hreads : platform.ReadsBack) {body : Json}
    {key : String} {eps : List Endpoint} (hv4 : ∀ ep ∈ eps, ep.IsV4)
    (hbody : body.subscript key = .ok (endpointTexts platform eps)) :
    getEndpoints platform ⟨body⟩ key = .ok eps := by
  rw [getEndpoints, hbody, Fallible.ok_bind, getStrings_endpointTexts, Fallible.ok_bind,
    mapM_strToEndpoint hreads hv4]

theorem getIgnoreEndpoint_findNodeRequestBody (hreads : platform.ReadsBack) (id : Uuid)
    {ignoreEps : List Endpoint} (hv4 : ∀ ep ∈ ignoreEps, ep.IsV4) :
    getIgnoreEndpoint platform ⟨findNodeRequestBody platform id ignoreEps⟩ =
      .ok ignoreEps :=
  getEndpoints_of_subscript hreads hv4 (by
    simp [findNodeRequestBody, Json.subscript, lookupField])

theorem getFindedEndpoint_findNodeResponseBody (hreads : platform.ReadsBack) (id : Uuid)
    (ignoreEps : List Endpoint) {findedEps : List Endpoint}
    (hv4 : ∀ ep ∈ findedEps, ep.IsV4) :
    getFindedEndpoint platform ⟨findNodeResponseBody platform id ignoreEps findedEps⟩ =
      .ok findedEps :=
  getEndpoints_of_subscript hreads hv4 (by
    simp [findNodeResponseBody, Json.subscript, lookupField])

theorem wellFormed_findNodeRequestBody (hreads : platform.ReadsBack) (id : Uuid)
    {ignoreEps : List Endpoint} (hv4 : ∀ ep ∈ ignoreEps, ep.IsV4) :
    WellFormed platform
      (Message.ofPart "kademlia" (findNodeRequestBody platform id ignoreEps))
      (findNodeRequestBody platform id ignoreEps) .findNode .request id where
  part := Message.getParam_ofPart "kademlia" _
  rpcNamed := by decide
  rpcText := by simp [findNodeRequestBody, Json.constSubscript, lookupField, Rpc.text]
  typeText := by
    simp [findNodeRequestBody, Json.constSubscript, lookupField, MessageType.text]
  observerId := getObserverId_of_subscript hreads (by
    simp [findNodeRequestBody, Json.subscript, lookupField])
  ignoreEps := by
    intro _ _
    rw [getIgnoreEndpoint_findNodeRequestBody hreads id hv4]
    rfl
  findedEps := by
    intro htype
    cases htype

theorem wellFormed_findNodeResponseBody (hreads : platform.ReadsBack) (id : Uuid)
    (ignoreEps : List Endpoint) {findedEps : List Endpoint}
    (hv4 : ∀ ep ∈ findedEps, ep.IsV4) :
    WellFormed platform
      (Message.ofPart "kademlia" (findNodeResponseBody platform id ignoreEps findedEps))
      (findNodeResponseBody platform id ignoreEps findedEps) .findNode .response id where
  part := Message.getParam_ofPart "kademlia" _
  rpcNamed := by decide
  rpcText := by simp [findNodeResponseBody, Json.constSubscript, lookupField, Rpc.text]
  typeText := by
    simp [findNodeResponseBody, Json.constSubscript, lookupField, MessageType.text]
  observerId := getObserverId_of_subscript hreads (by
    simp [findNodeResponseBody, Json.subscript, lookupField])
  ignoreEps := by
    intro htype
    cases htype
  findedEps := by
    intro _ _
    rw [getFindedEndpoint_findNodeResponseBody hreads id ignoreEps hv4]
    rfl

end KMessage

namespace RpcManager

/-- `find_node_request` stores its observer and sends the request. -/
theorem findNodeRequest_eq (platform : Platform) (strage : KObserverStrage)
    (io : IoContext) (id : Uuid) (ep : Endpoint) (ignoreEps : List Endpoint)
    (responseHandler : Handler) :
    findNodeRequest platform strage io id ep ignoreEps responseHandler =
      .ok (strage.addFindNode (FindNode.make id io.now responseHandler),
        io.asyncSend ep "kademlia"
          (KMessage.findNodeRequestBody platform id ignoreEps)) := rfl

/-- `find_node_response` puts the collected endpoints into the request and sends it
back. -/
theorem findNodeResponse_eq {platform : Platform} (hreads : platform.ReadsBack)
    {ignoreEps : List Endpoint} (hv4 : ∀ ep ∈ ignoreEps, ep.IsV4)
    (table : KRoutingTable) (io : IoContext) (id : Uuid) (ep : Endpoint) :
    findNodeResponse platform table io ⟨KMessage.findNodeRequestBody platform id ignoreEps⟩
        ep =
      .ok (table, io.asyncSend ep "kademlia"
        (KMessage.findNodeResponseBody platform id ignoreEps
          (table.collectEndpoint platform ep defaultFindNodeSize (ignoreEps ++ [ep])))) := by
  rw [findNodeResponse, KMessage.getIgnoreEndpoint_findNodeRequestBody hreads id hv4,
    Fallible.ok_bind]
  rfl

end RpcManager

namespace DhtManager

variable {platform : Platform}

/-- A node that awaits no answer with this id answers a find_node request. -/
theorem incomeMessage_findNodeRequestBody (hreads : platform.ReadsBack) {id : Uuid}
    {ignoreEps : List Endpoint} (hv4 : ∀ ep ∈ ignoreEps, ep.IsV4)
    {responder : DhtManager} (hfresh : responder.obsStrage.findNodes.find id = none)
    (io : IoContext) (ep : Endpoint) :
    responder.incomeMessage platform io
        (Message.ofPart "kademlia" (KMessage.findNodeRequestBody platform id ignoreEps))
        ep =
      .ok (responder, io.asyncSend ep "kademlia"
        (KMessage.findNodeResponseBody platform id ignoreEps
          (responder.routingTable.collectEndpoint platform ep defaultFindNodeSize
            (ignoreEps ++ [ep])))) := by
  have hmsg := KMessage.wellFormed_findNodeRequestBody hreads id hv4
  have hawaits : ¬ responder.obsStrage.Awaits id .findNode := by
    rw [KObserverStrage.Awaits, hfresh]
    exact Bool.false_ne_true
  rw [incomeMessage_of_not_awaits hmsg hawaits]
  simp only [RpcManager.incomeMessage, hmsg.part, hmsg.getMessageType_eq,
    RpcManager.incomeRequest, hmsg.getRpc_eq, Fallible.ok_bind,
    RpcManager.findNodeResponse_eq hreads hv4]
  rfl

/-- The observer of a find_node request is given the endpoints of a reply. -/
theorem incomeMessage_findNodeResponseBody (hreads : platform.ReadsBack) {id : Uuid}
    (ignoreEps : List Endpoint) {findedEps : List Endpoint}
    (hv4 : ∀ ep ∈ findedEps, ep.IsV4) {requester : DhtManager} {obs : FindNode}
    (hfind : requester.obsStrage.findNodes.find id = some obs) (io : IoContext)
    (ep : Endpoint) :
    requester.incomeMessage platform io
        (Message.ofPart "kademlia"
          (KMessage.findNodeResponseBody platform id ignoreEps findedEps)) ep =
      .ok ({ requester with obsStrage := requester.obsStrage.answerFindNode id },
        obs.postAll io findedEps) := by
  have hmsg := KMessage.wellFormed_findNodeResponseBody hreads id ignoreEps hv4
  have hid : obs.id = id := KeyedList.key_of_find hfind
  simp only [incomeMessage, receiverOf, hmsg.part, hmsg.getRpc_eq, hmsg.observerId,
    Fallible.ok_bind, pure_bind, findReceiver, hfind, Option.map_some,
    Option.getD_some, findNodeIncomeMessage,
    KMessage.getFindedEndpoint_findNodeResponseBody hreads id ignoreEps hv4, hid]
  rfl

/-- A reply that nobody awaits is dropped. -/
theorem incomeMessage_findNodeResponseBody_of_none (hreads : platform.ReadsBack) {id : Uuid}
    (ignoreEps : List Endpoint) {findedEps : List Endpoint}
    (hv4 : ∀ ep ∈ findedEps, ep.IsV4) {requester : DhtManager}
    (hfind : requester.obsStrage.findNodes.find id = none) (io : IoContext) (ep : Endpoint) :
    requester.incomeMessage platform io
        (Message.ofPart "kademlia"
          (KMessage.findNodeResponseBody platform id ignoreEps findedEps)) ep =
      .ok (requester, io) := by
  have hmsg := KMessage.wellFormed_findNodeResponseBody hreads id ignoreEps hv4
  have hawaits : ¬ requester.obsStrage.Awaits id .findNode := by
    rw [KObserverStrage.Awaits, hfind]
    exact Bool.false_ne_true
  rw [incomeMessage_of_not_awaits hmsg hawaits, incomeMessage_of_response hmsg]
  rfl

end DhtManager

/-! ## The calls of the response handler -/

namespace DhtLoop

variable (platform : Platform)

/-- The endpoints that a find_node will be called with, in the order of the queue. -/
def waitingResponses (loop : DhtLoop) (id : Uuid) : List Endpoint :=
  (loop.io.ready.filterMap Callback.answer).filterMap fun answer =>
    if answer.1 = id then some answer.2 else none

/-- The calls of the response handler of a find_node, those still to come included. -/
def responses (loop : DhtLoop) (id : Uuid) : List Endpoint :=
  loop.responsesTo id ++ loop.waitingResponses id

/-- Timers call no response handler. -/
def TimersOnly (loop : DhtLoop) : Prop :=
  ∀ wait ∈ loop.io.waits, wait.2.answer = none

/-- The callbacks are run in the order in which they became ready, and no further
message goes to the find_node observer with this id. -/
def InOrder (id : Uuid) (loop : DhtLoop) : Event → Prop
  | .receive msg _ => ∀ obs, loop.manager.receiver platform msg = some (.findNode obs) →
      obs.id ≠ id
  | .run position _ => position = 0
  | _ => True

variable {platform}

theorem responses_congr {loop next : DhtLoop}
    (hready : next.io.ready.filterMap Callback.answer =
      loop.io.ready.filterMap Callback.answer)
    (hinvoked : next.invoked.filterMap Invocation.answer =
      loop.invoked.filterMap Invocation.answer) (id : Uuid) :
    next.responses id = loop.responses id := by
  rw [responses, responses, responsesTo, responsesTo, waitingResponses, waitingResponses,
    hready, hinvoked]

/-- A ping request hands a timer to the event loop and calls nothing. -/
theorem queues_of_pingRequest {loop next : DhtLoop} {id : Uuid} {ep : Endpoint}
    {pongHandler timeoutHandler : Handler}
    (hrequest : loop.pingRequest platform id ep pongHandler timeoutHandler = some next) :
    next.io.ready = loop.io.ready ∧ next.invoked = loop.invoked ∧
      (loop.TimersOnly → next.TimersOnly) := by
  obtain ⟨-, payload, rfl⟩ := pingRequest_eq_some platform hrequest
  refine ⟨rfl, rfl, fun htimers wait hwait => ?_⟩
  cases List.mem_append.mp hwait with
  | inl hold => exact htimers wait hold
  | inr hnew =>
      obtain rfl := List.mem_singleton.mp hnew
      rfl

/-- A bound handler hands nothing to the queue but timers. -/
theorem queues_of_invoke {loop next : DhtLoop} {handler : Handler} {ep : Endpoint}
    {id : Uuid} (hinvoke : loop.invoke platform handler ep id = some next) :
    next.io.ready = loop.io.ready ∧ next.invoked = loop.invoked ∧
      (loop.TimersOnly → next.TimersOnly) := by
  cases invoke_eq_some platform hinvoke with
  | inl htable =>
      obtain ⟨table, rfl, -, -⟩ := htable
      exact ⟨rfl, rfl, fun htimers => htimers⟩
  | inr hrequest => exact queues_of_pingRequest hrequest

theorem timersOnly_runCallback {loop next : DhtLoop} {id : Uuid} {callback : Callback}
    (htimers : loop.TimersOnly)
    (hrun : runCallback platform loop id callback = some next) : next.TimersOnly := by
  rcases runCallback_cases platform hrun with
    ⟨obsId, obs, -, -, rfl⟩ | ⟨invocation, handler, ep, -, hinvoke⟩ | ⟨-, rfl⟩
  · rw [timeout]
    split_ifs
    · exact htimers
    · exact htimers
  · exact (queues_of_invoke hinvoke).2.2 htimers
  · intro wait hwait
    cases List.mem_append.mp hwait with
    | inl hold => exact htimers wait (IoContext.mem_waits_cancel hold)
    | inr hnew =>
        obtain rfl := List.mem_singleton.mp hnew
        rfl

theorem timersOnly_step {loop next : DhtLoop} {event : Event}
    (htimers : loop.TimersOnly) (hstep : loop.step platform event = some next) :
    next.TimersOnly := by
  cases event with
  | pingRequest id ep pongHandler timeoutHandler =>
      exact (queues_of_pingRequest hstep).2.2 htimers
  | findNodeRequest id ep ignoreEps responseHandler =>
      obtain ⟨-, payload, rfl⟩ := findNodeRequest_eq_some platform hstep
      exact htimers
  | receive msg ep =>
      obtain ⟨manager, io, hincome, rfl⟩ := receive_eq_some platform hstep
      rcases DhtManager.incomeMessage_cases hincome with
        ⟨obs, -, -, -, rfl⟩ | ⟨obs, findedEps, -, -, -, -, rfl⟩ | ⟨table, -, hanswers⟩
      · intro wait hwait
        have hold : wait ∈ (loop.io.post (.pongHandler obs.id)).waits :=
          IoContext.mem_waits_cancel hwait
        exact htimers wait hold
      · rw [FindNode.postAll_eq]
        exact htimers
      · obtain ⟨sent, hsent⟩ := hanswers.sends
        rw [show io = _ from hsent]
        exact htimers
  | updateGlobalSelfEndpoint ep =>
      obtain rfl := Option.some.inj hstep
      exact htimers
  | advance seconds =>
      obtain rfl := Option.some.inj hstep
      exact htimers
  | expire position =>
      obtain ⟨io, hexpire, rfl⟩ := Option.map_eq_some_iff.mp hstep
      obtain ⟨due, -, rfl⟩ := IoContext.expire_eq_some hexpire
      exact fun wait hwait => htimers wait (List.mem_of_mem_eraseIdx hwait)
  | run position id =>
      obtain ⟨⟨callback, io⟩, htake, hrun⟩ := Option.bind_eq_some_iff.mp hstep
      have htaken : ({ loop with io := io } : DhtLoop).TimersOnly := by
        rw [(IoContext.take_eq_some htake).2]
        exact htimers
      exact timersOnly_runCallback htaken hrun

/-- The endpoints that a callback or a call passes to the handler of a find_node. -/
theorem responses_taken {loop : DhtLoop} {io : IoContext} {callback : Callback}
    {invocation : Invocation} (htake : loop.io.take 0 = some (callback, io))
    (hanswer : invocation.answer = callback.answer) (id : Uuid) :
    (({ loop with io := io } : DhtLoop).log invocation).responses id =
      loop.responses id := by
  simp only [responses, responsesTo, waitingResponses, log,
    IoContext.ready_take_zero htake, List.filterMap_append, List.filterMap_cons,
    List.filterMap_nil, hanswer]
  cases callback.answer with
  | none => simp
  | some answer =>
      simp only [List.filterMap_cons, List.filterMap_nil]
      split_ifs
      · simp
      · simp

/-- A callback that calls no response handler. -/
theorem responses_taken_of_none {loop : DhtLoop} {io : IoContext} {callback : Callback}
    (htake : loop.io.take 0 = some (callback, io)) (hanswer : callback.answer = none)
    (id : Uuid) : ({ loop with io := io } : DhtLoop).responses id = loop.responses id := by
  apply responses_congr
  · rw [IoContext.ready_take_zero htake, List.filterMap_cons_none hanswer]
  · rfl

theorem responses_runCallback {loop next : DhtLoop} {io : IoContext} {newId : Uuid}
    {callback : Callback} (htimers : loop.TimersOnly)
    (htake : loop.io.take 0 = some (callback, io))
    (hrun : runCallback platform { loop with io := io } newId callback = some next)
    (id : Uuid) : next.responses id = loop.responses id := by
  rcases runCallback_cases platform hrun with
    ⟨obsId, obs, rfl, -, rfl⟩ | ⟨invocation, handler, ep, hcalls, hinvoke⟩ | ⟨rfl, rfl⟩
  · rw [← responses_taken_of_none htake rfl, timeout]
    split_ifs
    · rfl
    · apply responses_congr
      · simp [IoContext.post, Callback.answer]
      · rfl
  · obtain ⟨hready, hinvoked, -⟩ := queues_of_invoke hinvoke
    rw [responses_congr (congrArg _ hready) (congrArg _ hinvoked),
      responses_taken htake hcalls.answer_eq]
  · rw [← responses_taken_of_none htake rfl]
    have hwaits : ∀ wait ∈ io.waits, wait.2.answer = none := by
      rw [(IoContext.take_eq_some htake).2]
      exact htimers
    apply responses_congr
    · exact IoContext.filterMap_cancel hwaits _
    · rfl

/-- A message that goes to another observer adds no endpoint. -/
theorem responses_receive {loop next : DhtLoop} {msg : Message} {ep : Endpoint}
    {id : Uuid} (htimers : loop.TimersOnly)
    (hother : ∀ obs, loop.manager.receiver platform msg = some (.findNode obs) →
      obs.id ≠ id)
    (hstep : loop.step platform (.receive msg ep) = some next) :
    next.responses id = loop.responses id := by
  obtain ⟨manager, io, hincome, rfl⟩ := receive_eq_some platform hstep
  rcases DhtManager.incomeMessage_cases hincome with
    ⟨obs, -, -, -, rfl⟩ | ⟨obs, findedEps, hreceiver, -, -, -, rfl⟩ |
    ⟨table, -, hanswers⟩
  · apply responses_congr
    · have hwaits : ∀ wait ∈ (loop.io.post (.pongHandler obs.id)).waits,
          wait.2.answer = none := htimers
      have hcancel := IoContext.filterMap_cancel hwaits (· = .pingTimeout obs.id)
      rw [Ping.incomeMessage, hcancel]
      simp [IoContext.post, Callback.answer]
    · rfl
  · have hne : obs.id ≠ id := hother obs hreceiver
    have hnone : ((findedEps.map (Callback.responseHandler obs.id)).filterMap
        Callback.answer).filterMap
          (fun answer => if answer.1 = id then some answer.2 else none) = [] := by
      simp [List.filterMap_map, Function.comp_def, Callback.answer, hne]
    simp only [responses, responsesTo, waitingResponses, FindNode.postAll_eq,
      List.filterMap_append, hnone, List.append_nil]
  · obtain ⟨sent, hsent⟩ := hanswers.sends
    rw [show io = _ from hsent]
    exact responses_congr rfl rfl id

theorem responses_step {loop next : DhtLoop} {id : Uuid} {event : Event}
    (htimers : loop.TimersOnly) (hinOrder : loop.InOrder platform id event)
    (hstep : loop.step platform event = some next) :
    next.responses id = loop.responses id := by
  cases event with
  | pingRequest newId ep pongHandler timeoutHandler =>
      obtain ⟨hready, hinvoked, -⟩ := queues_of_pingRequest hstep
      exact responses_congr (congrArg _ hready) (congrArg _ hinvoked) id
  | findNodeRequest newId ep ignoreEps responseHandler =>
      obtain ⟨-, payload, rfl⟩ := findNodeRequest_eq_some platform hstep
      exact responses_congr rfl rfl id
  | receive msg ep => exact responses_receive htimers hinOrder hstep
  | updateGlobalSelfEndpoint ep =>
      obtain rfl := Option.some.inj hstep
      exact responses_congr rfl rfl id
  | advance seconds =>
      obtain rfl := Option.some.inj hstep
      exact responses_congr rfl rfl id
  | expire position =>
      obtain ⟨io, hexpire, rfl⟩ := Option.map_eq_some_iff.mp hstep
      obtain ⟨due, hdue, rfl⟩ := IoContext.expire_eq_some hexpire
      apply responses_congr
      · simp [htimers due (List.mem_of_getElem? hdue)]
      · rfl
  | run position newId =>
      obtain rfl : position = 0 := hinOrder
      obtain ⟨⟨callback, io⟩, htake, hrun⟩ := Option.bind_eq_some_iff.mp hstep
      exact responses_runCallback htimers htake hrun id

/-- In a run in order nothing is added to the calls of the response handler. -/
theorem responses_of_meets {loop last : DhtLoop} {id : Uuid} {events : List Event}
    (htimers : loop.TimersOnly)
    (hmeets : Runs.Meets (step platform) (InOrder platform id) loop events)
    (hrun : Runs.execute (step platform) loop events = some last) :
    last.responses id = loop.responses id :=
  (Runs.invariant_of_meets
    (fun state => state.TimersOnly ∧ state.responses id = loop.responses id)
    (fun _ _ _ hstate hinOrder hstep => ⟨timersOnly_step hstate.1 hstep,
      (responses_step hstate.1 hinOrder hstep).trans hstate.2⟩)
    ⟨htimers, rfl⟩ hmeets hrun).2

variable (platform) in
/-- A bound handler can always be called, with an unused id for the ping it may send. -/
theorem exists_invoke (loop : DhtLoop) (handler : Handler) (ep : Endpoint) {newId : Uuid}
    (hfresh : newId ∉ loop.issued) :
    ∃ next, loop.invoke platform handler ep newId = some next ∧
      next.strage.findNodes = loop.strage.findNodes ∧
      next.issued ⊆ newId :: loop.issued := by
  cases handler with
  | pingFound =>
      have hrequest : ∃ next,
          loop.pingRequest platform newId ep .autoUpdate .null = some next := by
        rw [pingRequest, if_neg hfresh, RpcManager.pingRequest_eq]
        exact ⟨_, rfl⟩
      obtain ⟨next, hrequest⟩ := hrequest
      obtain ⟨-, payload, rfl⟩ := pingRequest_eq_some platform hrequest
      exact ⟨_, hrequest, rfl, List.Subset.refl _⟩
  | _ => exact ⟨_, rfl, rfl, List.subset_cons_self newId loop.issued⟩

/-- A state of a node that was started once. -/
def Reachable (platform : Platform) (loop : DhtLoop) : Prop :=
  ∃ ep now events, Runs.execute (step platform) (start platform ep now) events = some loop

theorem timersOnly_of_reachable {loop : DhtLoop} (hreachable : loop.Reachable platform) :
    loop.TimersOnly := by
  obtain ⟨ep, now, events, hrun⟩ := hreachable
  have hstart : (start platform ep now).TimersOnly := by
    intro wait hwait
    simp only [start, IoContext.asyncWait, IoContext.start, List.nil_append,
      List.mem_singleton] at hwait
    rw [hwait]
    rfl
  exact Runs.invariant_of_step TimersOnly (fun _ _ _ => timersOnly_step) hstart hrun

end DhtLoop

end SsP2p.Kademlia

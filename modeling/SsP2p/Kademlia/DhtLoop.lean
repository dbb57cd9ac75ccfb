import SsP2p.Kademlia.DhtManager
import SsP2p.Lib.Runs

/-!
# The DHT manager in its event loop

`DhtLoop` is a `dht_manager` with the event loop that serves it: requests, the
arrival of messages, the passing of time, timers that run out and callbacks that
are run, in any order.  A callback on an observer that is no longer stored has
no defined behaviour, so that running it is not a step.  Observer ids come from
the random generator and are never drawn twice.
-/

namespace SsP2p.Kademlia

/-- One call of a handler: which request it belongs to and its argument. -/
inductive Invocation where
  | pong (id : Uuid) (ep : Endpoint)
  | timeout (id : Uuid) (ep : Endpoint)
  | response (id : Uuid) (ep : Endpoint)
  deriving DecidableEq

/-- A `dht_manager` and its event loop, with the ids drawn, the messages
received and the handlers called so far. -/
structure DhtLoop where
  manager : DhtManager
  io : IoContext
  issued : List Uuid
  received : List Message
  invoked : List Invocation

namespace DhtLoop

inductive Event where
  | pingRequest (id : Uuid) (ep : Endpoint) (pongHandler timeoutHandler : Handler)
  | findNodeRequest (id : Uuid) (ep : Endpoint) (ignoreEps : List Endpoint)
      (responseHandler : Handler)
  | receive (msg : Message) (ep : Endpoint)
  | updateGlobalSelfEndpoint (ep : Endpoint)
  | advance (seconds : ℕ)
  /-- The timer of the wait at this position runs out. -/
  | expire (position : ℕ)
  /-- Run the ready callback at this position; `id` is the id that a ping draws
  if its handler sends one. -/
  | run (position : ℕ) (id : Uuid)

variable (platform : Platform)

def strage (loop : DhtLoop) : KObserverStrage := loop.manager.obsStrage

def table (loop : DhtLoop) : KRoutingTable := loop.manager.routingTable

def withStrage (loop : DhtLoop) (strage : KObserverStrage) : DhtLoop :=
  { loop with manager := { loop.manager with obsStrage := strage } }

def withTable (loop : DhtLoop) (table : KRoutingTable) : DhtLoop :=
  { loop with manager := { loop.manager with routingTable := table } }

/-- A manager that was just built; its storage has called `call_tick`. -/
def start (ep : Endpoint) (now : ℕ) : DhtLoop where
  manager := .make platform ep
  io := (IoContext.start now).asyncWait observerStrageTickTime .refreshTick
  issued := []
  received := []
  invoked := []

def pingRequest (loop : DhtLoop) (id : Uuid) (ep : Endpoint)
    (pongHandler timeoutHandler : Handler) : Option DhtLoop :=
  if id ∈ loop.issued then none
  else
    match RpcManager.pingRequest platform loop.strage loop.io id ep pongHandler
        timeoutHandler with
    | .error _ => none
    | .ok (strage, io) => some
        { loop.withStrage strage with io := io, issued := id :: loop.issued }

def findNodeRequest (loop : DhtLoop) (id : Uuid) (ep : Endpoint)
    (ignoreEps : List Endpoint) (responseHandler : Handler) : Option DhtLoop :=
  if id ∈ loop.issued then none
  else
    match RpcManager.findNodeRequest platform loop.strage loop.io id ep ignoreEps
        responseHandler with
    | .error _ => none
    | .ok (strage, io) => some
        { loop.withStrage strage with io := io, issued := id :: loop.issued }

def invoke (loop : DhtLoop) (handler : Handler) (ep : Endpoint) (id : Uuid) :
    Option DhtLoop :=
  match handler with
  | .moveBack index kn => some (loop.withTable
      (loop.table.setBucket index ((loop.table.bucketAt index).moveBack kn)))
  | .deleteNode index kn => some (loop.withTable
      (loop.table.setBucket index ((loop.table.bucketAt index).deleteNode kn)))
  | .autoUpdate => some (loop.withTable (loop.table.autoUpdateEndpoint platform ep))
  | .null => some loop
  | .pingFound => loop.pingRequest platform id ep .autoUpdate .null

def log (loop : DhtLoop) (invocation : Invocation) : DhtLoop :=
  { loop with invoked := loop.invoked ++ [invocation] }

def timeout (loop : DhtLoop) (obs : Ping) : DhtLoop :=
  if obs.isPongArrived then loop
  else
    { loop.withStrage (loop.strage.timeOutPing obs.id) with
      io := loop.io.post (.timeoutHandler obs.id) }

/-- `observer_strage::refresh_tick`: a deleted `ping` takes its timer along. -/
def refreshTick (loop : DhtLoop) : DhtLoop :=
  let strage := loop.strage.deleteExpires loop.io.now
  let deleted : Callback → Bool
    | .pingTimeout id => (strage.pings.find id).isNone
    | _ => false
  { loop.withStrage strage with
    io := (loop.io.cancel deleted).asyncWait observerStrageTickTime .refreshTick }

def runCallback (loop : DhtLoop) (id : Uuid) : Callback → Option DhtLoop
  | .pingTimeout obsId =>
      (loop.strage.pings.find obsId).map fun obs => loop.timeout obs
  | .pongHandler obsId =>
      (loop.strage.pings.find obsId).bind fun obs =>
        (loop.log (.pong obsId obs.destEp)).invoke platform obs.pongHandler
          obs.destEp id
  | .timeoutHandler obsId =>
      (loop.strage.pings.find obsId).bind fun obs =>
        (loop.log (.timeout obsId obs.destEp)).invoke platform obs.timeoutHandler
          obs.destEp id
  | .responseHandler obsId ep =>
      (loop.strage.findNodes.find obsId).bind fun obs =>
        (loop.log (.response obsId ep)).invoke platform obs.responseHandler ep id
  | .refreshTick => some loop.refreshTick
  -- The other callbacks belong to the ICE agent.
  | _ => none

def step (loop : DhtLoop) : Event → Option DhtLoop
  | .pingRequest id ep pongHandler timeoutHandler =>
      loop.pingRequest platform id ep pongHandler timeoutHandler
  | .findNodeRequest id ep ignoreEps responseHandler =>
      loop.findNodeRequest platform id ep ignoreEps responseHandler
  | .receive msg ep =>
      match loop.manager.incomeMessage platform loop.io msg ep with
      | .error _ => none
      | .ok (manager, io) => some
          { loop with manager := manager, io := io, received := loop.received ++ [msg] }
  | .updateGlobalSelfEndpoint ep => some
      { loop with manager := loop.manager.updateGlobalSelfEndpoint platform ep }
  | .advance seconds => some { loop with io := loop.io.advance seconds }
  | .expire position => (loop.io.expire position).map fun io => { loop with io := io }
  | .run position id =>
      (loop.io.take position).bind fun taken =>
        runCallback platform { loop with io := taken.2 } id taken.1

@[simp]
theorem strage_withStrage (loop : DhtLoop) (strage : KObserverStrage) :
    (loop.withStrage strage).strage = strage := rfl

@[simp]
theorem strage_withTable (loop : DhtLoop) (table : KRoutingTable) :
    (loop.withTable table).strage = loop.strage := rfl

@[simp]
theorem table_withTable (loop : DhtLoop) (table : KRoutingTable) :
    (loop.withTable table).table = table := rfl

/-! ## What each function does -/

def startedPing (loop : DhtLoop) (id : Uuid) (ep : Endpoint)
    (pongHandler timeoutHandler : Handler) : Ping :=
  ((Ping.make id loop.io.now ep pongHandler timeoutHandler).init loop.io).1

theorem pingRequest_eq_some {loop next : DhtLoop} {id : Uuid} {ep : Endpoint}
    {pongHandler timeoutHandler : Handler}
    (hrequest : loop.pingRequest platform id ep pongHandler timeoutHandler =
      some next) :
    id ∉ loop.issued ∧ ∃ payload, next =
      { loop.withStrage (loop.strage.addPing
          (loop.startedPing id ep pongHandler timeoutHandler)) with
        io := (loop.io.asyncWait (defaultPingResponseTimeout - 1)
          (.pingTimeout id)).asyncSend ep "kademlia" payload
        issued := id :: loop.issued } := by
  unfold pingRequest at hrequest
  split_ifs at hrequest with hissued
  exact ⟨hissued, _, (Option.some.inj hrequest).symm⟩

theorem findNodeRequest_eq_some {loop next : DhtLoop} {id : Uuid}
    {ep : Endpoint} {ignoreEps : List Endpoint} {responseHandler : Handler}
    (hrequest : loop.findNodeRequest platform id ep ignoreEps responseHandler =
      some next) :
    id ∉ loop.issued ∧ ∃ payload, next =
      { loop.withStrage (loop.strage.addFindNode
          (FindNode.make id loop.io.now responseHandler)) with
        io := loop.io.asyncSend ep "kademlia" payload
        issued := id :: loop.issued } := by
  unfold findNodeRequest at hrequest
  split_ifs at hrequest with hissued
  exact ⟨hissued, _, (Option.some.inj hrequest).symm⟩

theorem receive_eq_some {loop next : DhtLoop} {msg : Message} {ep : Endpoint}
    (hstep : step platform loop (.receive msg ep) = some next) :
    ∃ manager io,
      loop.manager.incomeMessage platform loop.io msg ep = .ok (manager, io) ∧
      next = { loop with
        manager := manager, io := io, received := loop.received ++ [msg] } := by
  simp only [step] at hstep
  cases hincome : loop.manager.incomeMessage platform loop.io msg ep with
  | error fault =>
      rw [hincome] at hstep
      cases hstep
  | ok result =>
      rw [hincome] at hstep
      exact ⟨result.1, result.2, rfl, (Option.some.inj hstep).symm⟩

/-- A handler works on one bucket of the table, or it sends a ping. -/
theorem invoke_eq_some {loop next : DhtLoop} {handler : Handler} {ep : Endpoint}
    {id : Uuid} (hinvoke : loop.invoke platform handler ep id = some next) :
    (∃ table, next = loop.withTable table ∧ table.selfId = loop.table.selfId ∧
      (loop.table.Placed → table.Placed)) ∨
    loop.pingRequest platform id ep .autoUpdate .null = some next := by
  cases handler with
  | moveBack index kn =>
      refine Or.inl ⟨_, (Option.some.inj hinvoke).symm, rfl, fun hplaced => ?_⟩
      apply KRoutingTable.placed_setBucket hplaced
      intro other hother
      rw [KBucket.nodes_moveBack] at hother
      exact hplaced index other (Recency.mem_touch_iff.mp hother)
  | deleteNode index kn =>
      refine Or.inl ⟨_, (Option.some.inj hinvoke).symm, rfl, fun hplaced => ?_⟩
      apply KRoutingTable.placed_setBucket hplaced
      intro other hother
      rw [KBucket.nodes_deleteNode] at hother
      exact hplaced index other (Recency.mem_of_mem_forget hother)
  | autoUpdate =>
      exact Or.inl ⟨_, (Option.some.inj hinvoke).symm, rfl, fun hplaced =>
        KRoutingTable.placed_autoUpdateEndpoint platform hplaced ep⟩
  | null => exact Or.inl ⟨loop.table, (Option.some.inj hinvoke).symm, rfl,
      fun hplaced => hplaced⟩
  | pingFound => exact Or.inr hinvoke

/-- A posted handler is called while its observer is stored. -/
inductive Calls (loop : DhtLoop) : Callback → Invocation → Handler → Endpoint → Prop where
  | pong (obsId : Uuid) (obs : Ping) (hfind : loop.strage.pings.find obsId = some obs) :
      Calls loop (.pongHandler obsId) (.pong obsId obs.destEp) obs.pongHandler obs.destEp
  | timeout (obsId : Uuid) (obs : Ping) (hfind : loop.strage.pings.find obsId = some obs) :
      Calls loop (.timeoutHandler obsId) (.timeout obsId obs.destEp) obs.timeoutHandler
        obs.destEp
  | response (obsId : Uuid) (ep : Endpoint) (obs : FindNode)
      (hfind : loop.strage.findNodes.find obsId = some obs) :
      Calls loop (.responseHandler obsId ep) (.response obsId ep) obs.responseHandler ep

/-- The timer of a ping runs out, a posted handler is called, or a refresh tick is run. -/
theorem runCallback_cases {loop next : DhtLoop} {id : Uuid} {callback : Callback}
    (hrun : runCallback platform loop id callback = some next) :
    (∃ obsId obs, callback = .pingTimeout obsId ∧
      loop.strage.pings.find obsId = some obs ∧ next = loop.timeout obs) ∨
    (∃ invocation handler ep, loop.Calls callback invocation handler ep ∧
      (loop.log invocation).invoke platform handler ep id = some next) ∨
    callback = .refreshTick ∧ next = loop.refreshTick := by
  cases callback with
  | pingTimeout obsId =>
      obtain ⟨obs, hfind, rfl⟩ := Option.map_eq_some_iff.mp hrun
      exact Or.inl ⟨obsId, obs, rfl, hfind, rfl⟩
  | pongHandler obsId =>
      obtain ⟨obs, hfind, hinvoke⟩ := Option.bind_eq_some_iff.mp hrun
      exact Or.inr (Or.inl ⟨_, _, _, .pong obsId obs hfind, hinvoke⟩)
  | timeoutHandler obsId =>
      obtain ⟨obs, hfind, hinvoke⟩ := Option.bind_eq_some_iff.mp hrun
      exact Or.inr (Or.inl ⟨_, _, _, .timeout obsId obs hfind, hinvoke⟩)
  | responseHandler obsId ep =>
      obtain ⟨obs, hfind, hinvoke⟩ := Option.bind_eq_some_iff.mp hrun
      exact Or.inr (Or.inl ⟨_, _, _, .response obsId ep obs hfind, hinvoke⟩)
  | refreshTick => exact Or.inr (Or.inr ⟨rfl, (Option.some.inj hrun).symm⟩)
  | bindingTimeout obsId => cases hrun
  | srHandler obsId ep => cases hrun
  | traversalDone obsId => cases hrun

end DhtLoop

end SsP2p.Kademlia

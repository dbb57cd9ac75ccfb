import SsP2p.Kademlia.RpcManager

/-!
# The DHT manager

`dht_manager` gives an incoming message to the observer whose id it carries, and
to the RPC manager when there is none.
-/

namespace SsP2p.Kademlia

/-- `dht_manager` with the routing table that `rpc_manager` owns.  The id of
`rpc_manager` is a reference to `selfId`, the one of the table a copy. -/
structure DhtManager where
  selfEp : Endpoint
  selfId : NodeId
  routingTable : KRoutingTable
  obsStrage : KObserverStrage

namespace DhtManager

variable (platform : Platform)

def make (ep : Endpoint) : DhtManager where
  selfEp := ep
  selfId := calcNodeId platform ep
  routingTable := .empty (calcNodeId platform ep)
  obsStrage := .empty

def updateGlobalSelfEndpoint (manager : DhtManager) (ep : Endpoint) :
    DhtManager :=
  { manager with selfEp := ep, selfId := calcNodeId platform ep }

/-- What `find_node::income_message` does to the storage and the event loop. -/
def findNodeIncomeMessage (strage : KObserverStrage) (io : IoContext)
    (obs : FindNode) (msg : Message) : Except Fault (KObserverStrage × IoContext) :=
  match msg.getParam "kademlia" with
  | none => return (strage, io)
  | some kParam => do
      let findedEps ← KMessage.getFindedEndpoint platform ⟨kParam⟩
      return (strage.answerFindNode obs.id, obs.postAll io findedEps)

/-- What `ping::income_message` does to the storage and the event loop. -/
def pingIncomeMessage (strage : KObserverStrage) (io : IoContext) (obs : Ping) :
    KObserverStrage × IoContext :=
  (strage.answerPing obs.id, obs.incomeMessage io)

/-- The observer that an incoming message is given to. -/
inductive Receiver where
  | ping (obs : Ping)
  | findNode (obs : FindNode)
  | rpcManager

/-- The `switch` of `income_message` over the rpc. -/
def findReceiver (strage : KObserverStrage) (obsId : Uuid) :
    KMessage.Rpc → Receiver
  | .ping => ((strage.pings.find obsId).map Receiver.ping).getD .rpcManager
  | .findNode =>
      ((strage.findNodes.find obsId).map Receiver.findNode).getD .rpcManager
  | .none => .rpcManager

/-- The receiver of the Kademlia part of a message. -/
def receiverOf (manager : DhtManager) (kMsg : KMessage) : Except Fault Receiver := do
  let rpc ← kMsg.getRpc
  let obsId ← kMsg.getObserverId platform
  return findReceiver manager.obsStrage obsId rpc

def incomeMessage (manager : DhtManager) (io : IoContext) (msg : Message)
    (ep : Endpoint) : Except Fault (DhtManager × IoContext) :=
  match msg.getParam "kademlia" with
  | none => return (manager, io)
  | some kParam => do
      match ← manager.receiverOf platform ⟨kParam⟩ with
      | .ping obs =>
          let (strage, io) := pingIncomeMessage manager.obsStrage io obs
          return ({ manager with obsStrage := strage }, io)
      | .findNode obs =>
          let (strage, io) ←
            findNodeIncomeMessage platform manager.obsStrage io obs msg
          return ({ manager with obsStrage := strage }, io)
      | .rpcManager =>
          let (table, io) ←
            RpcManager.incomeMessage platform manager.routingTable io msg ep
          return ({ manager with routingTable := table }, io)

/-- The receiver of a message, when its Kademlia part can be read. -/
def receiver (manager : DhtManager) (msg : Message) : Option Receiver :=
  (msg.getParam "kademlia").bind fun kParam =>
    (manager.receiverOf platform ⟨kParam⟩).toOption

/-- A message that carries an observer id and, for that observer, endpoints. -/
def CarriesAnswer (msg : Message) (id : Uuid) (findedEps : List Endpoint) : Prop :=
  ∃ kParam, msg.getParam "kademlia" = some kParam ∧
    KMessage.getObserverId platform ⟨kParam⟩ = .ok id ∧
    KMessage.getFindedEndpoint platform ⟨kParam⟩ = .ok findedEps

theorem findReceiver_eq_ping {strage : KObserverStrage} {obsId : Uuid}
    {rpc : KMessage.Rpc} {obs : Ping}
    (hreceiver : findReceiver strage obsId rpc = .ping obs) :
    strage.pings.find obsId = some obs := by
  cases rpc with
  | ping =>
      cases hfind : strage.pings.find obsId with
      | none => simp [findReceiver, hfind] at hreceiver
      | some found => simpa [findReceiver, hfind] using hreceiver
  | findNode =>
      cases hfind : strage.findNodes.find obsId <;>
        simp [findReceiver, hfind] at hreceiver
  | none => cases hreceiver

theorem findReceiver_eq_findNode {strage : KObserverStrage} {obsId : Uuid}
    {rpc : KMessage.Rpc} {obs : FindNode}
    (hreceiver : findReceiver strage obsId rpc = .findNode obs) :
    strage.findNodes.find obsId = some obs := by
  cases rpc with
  | ping =>
      cases hfind : strage.pings.find obsId <;>
        simp [findReceiver, hfind] at hreceiver
  | findNode =>
      cases hfind : strage.findNodes.find obsId with
      | none => simp [findReceiver, hfind] at hreceiver
      | some found => simpa [findReceiver, hfind] using hreceiver
  | none => cases hreceiver

variable {platform}

/-- What one message can do: answer a ping observer, answer a find_node
observer, or be handled by the RPC manager, which leaves the storage alone. -/
theorem incomeMessage_cases {manager next : DhtManager} {io nextIo : IoContext}
    {msg : Message} {ep : Endpoint}
    (hincome : manager.incomeMessage platform io msg ep = .ok (next, nextIo)) :
    (∃ obs, manager.receiver platform msg = some (.ping obs) ∧
      manager.obsStrage.pings.find obs.id = some obs ∧
      next = { manager with obsStrage := manager.obsStrage.answerPing obs.id } ∧
      nextIo = obs.incomeMessage io) ∨
    (∃ obs findedEps, manager.receiver platform msg = some (.findNode obs) ∧
      manager.obsStrage.findNodes.find obs.id = some obs ∧
      CarriesAnswer platform msg obs.id findedEps ∧
      next = { manager with obsStrage := manager.obsStrage.answerFindNode obs.id } ∧
      nextIo = obs.postAll io findedEps) ∨
    (∃ table, next = { manager with routingTable := table } ∧
      RpcManager.Answers manager.routingTable io (table, nextIo)) := by
  unfold incomeMessage at hincome
  cases hparam : msg.getParam "kademlia" with
  | none =>
      rw [hparam] at hincome
      obtain ⟨rfl, rfl⟩ := Prod.mk.inj (Fallible.pure_eq_ok.mp hincome)
      exact Or.inr (Or.inr ⟨_, rfl, RpcManager.answers_refl _ _⟩)
  | some kParam =>
      simp only [hparam, Fallible.bind_eq_ok] at hincome
      obtain ⟨receiver, hreceiver, hincome⟩ := hincome
      have hfound : manager.receiver platform msg = some receiver := by
        rw [DhtManager.receiver, hparam, Option.bind_some, hreceiver]
        rfl
      simp only [receiverOf, Fallible.bind_eq_ok, Fallible.pure_eq_ok] at hreceiver
      obtain ⟨rpc, -, obsId, hobsId, hreceiver⟩ := hreceiver
      cases receiver with
      | ping obs =>
          have hfind := findReceiver_eq_ping hreceiver
          have hid : obs.id = obsId := KeyedList.key_of_find hfind
          rw [← hid] at hfind
          obtain ⟨rfl, rfl⟩ := Prod.mk.inj (Fallible.pure_eq_ok.mp hincome)
          exact Or.inl ⟨obs, hfound, hfind, rfl, rfl⟩
      | findNode obs =>
          have hfind := findReceiver_eq_findNode hreceiver
          have hid : obs.id = obsId := KeyedList.key_of_find hfind
          rw [← hid] at hfind hobsId
          simp only [findNodeIncomeMessage, hparam, Fallible.bind_eq_ok,
            Fallible.pure_eq_ok] at hincome
          obtain ⟨_, ⟨findedEps, hfinded, rfl⟩, hresult⟩ := hincome
          obtain ⟨rfl, rfl⟩ := Prod.mk.inj hresult
          exact Or.inr (Or.inl ⟨obs, findedEps, hfound, hfind,
            ⟨kParam, hparam, hobsId, hfinded⟩, rfl, rfl⟩)
      | rpcManager =>
          simp only [Fallible.bind_eq_ok, Fallible.pure_eq_ok] at hincome
          obtain ⟨⟨table, tableIo⟩, hrpc, hresult⟩ := hincome
          obtain ⟨rfl, rfl⟩ := Prod.mk.inj hresult
          exact Or.inr (Or.inr ⟨table, rfl, RpcManager.answers_incomeMessage hrpc⟩)

end DhtManager

end SsP2p.Kademlia

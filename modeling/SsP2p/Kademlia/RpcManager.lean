import SsP2p.Kademlia.KObserver
import SsP2p.Lib.Fallible

/-!
# The RPC manager

`rpc_manager` sends requests, for which it stores an observer, and answers the
requests of other nodes from the routing table.
-/

namespace SsP2p.Kademlia

abbrev defaultFindNodeSize : ℕ := 5

namespace RpcManager

variable (platform : Platform)

/-- `ping_request` with the id that the observer draws.  Whichever way `s_send_func` takes,
the message counts as sent to `ep`. -/
def pingRequest (strage : KObserverStrage) (io : IoContext) (id : Uuid)
    (ep : Endpoint) (pongHandler timeoutHandler : Handler) :
    Except Fault (KObserverStrage × IoContext) := do
  let pingObs := (Ping.make id io.now ep pongHandler timeoutHandler).init io
  let kMsg ← KMessage.request .ping
  let kMsg ← kMsg.setObserverId platform id
  return (strage.addPing pingObs.1, pingObs.2.asyncSend ep "kademlia" kMsg.body)

/-- `find_node_request` with the id that the observer draws. -/
def findNodeRequest (strage : KObserverStrage) (io : IoContext) (id : Uuid)
    (ep : Endpoint) (ignoreEps : List Endpoint) (responseHandler : Handler) :
    Except Fault (KObserverStrage × IoContext) := do
  let kMsg ← KMessage.request .findNode
  let kMsg ← kMsg.setObserverId platform id
  let kMsg ← kMsg.setIgnoreEndpoint platform ignoreEps
  return (strage.addFindNode (FindNode.make id io.now responseHandler),
    io.asyncSend ep "kademlia" kMsg.body)

def pingResponse (table : KRoutingTable) (io : IoContext) (kMsg : KMessage)
    (ep : Endpoint) : Except Fault (KRoutingTable × IoContext) := do
  let kMsg ← kMsg.setMessageType .response
  return (table.autoUpdateBatch platform [ep],
    io.asyncSend ep "kademlia" kMsg.body)

def findNodeResponse (table : KRoutingTable) (io : IoContext) (kMsg : KMessage)
    (ep : Endpoint) : Except Fault (KRoutingTable × IoContext) := do
  let ignoreEps ← kMsg.getIgnoreEndpoint platform
  let eps := table.collectEndpoint platform ep defaultFindNodeSize
    (ignoreEps ++ [ep])
  let kMsg ← kMsg.setFindedEndpoint platform eps
  let kMsg ← kMsg.setMessageType .response
  return (table, io.asyncSend ep "kademlia" kMsg.body)

def incomeRequest (table : KRoutingTable) (io : IoContext) (kMsg : KMessage)
    (ep : Endpoint) : Except Fault (KRoutingTable × IoContext) := do
  match ← kMsg.getRpc with
  | .ping => pingResponse platform table io kMsg ep
  | .findNode => findNodeResponse platform table io kMsg ep
  | .none => return (table, io)

def incomeMessage (table : KRoutingTable) (io : IoContext) (msg : Message)
    (ep : Endpoint) : Except Fault (KRoutingTable × IoContext) := do
  match msg.getParam "kademlia" with
  | none => return (table, io)
  | some kParam =>
      match ← KMessage.getMessageType ⟨kParam⟩ with
      | .request => incomeRequest platform table io ⟨kParam⟩ ep
      -- `income_response` does nothing.
      | .response => return (table, io)

/-! ## What an incoming message can change -/

/-- The table keeps its id and its placement, and the event loop at most sends. -/
structure Answers (table : KRoutingTable) (io : IoContext)
    (result : KRoutingTable × IoContext) : Prop where
  selfId : result.1.selfId = table.selfId
  placed : table.Placed → result.1.Placed
  sends : ∃ sent, result.2 = { io with sent := sent }

theorem answers_refl (table : KRoutingTable) (io : IoContext) :
    Answers table io (table, io) :=
  ⟨rfl, fun hplaced => hplaced, io.sent, rfl⟩

variable {platform}

theorem answers_pingResponse {table : KRoutingTable} {io : IoContext}
    {kMsg : KMessage} {ep : Endpoint} {result : KRoutingTable × IoContext}
    (hresponse : pingResponse platform table io kMsg ep = .ok result) :
    Answers table io result := by
  simp only [pingResponse, Fallible.bind_eq_ok, Fallible.pure_eq_ok] at hresponse
  obtain ⟨reply, -, rfl⟩ := hresponse
  exact ⟨rfl, fun hplaced =>
    KRoutingTable.placed_autoUpdateEndpoint platform hplaced ep, _, rfl⟩

theorem answers_findNodeResponse {table : KRoutingTable} {io : IoContext}
    {kMsg : KMessage} {ep : Endpoint} {result : KRoutingTable × IoContext}
    (hresponse : findNodeResponse platform table io kMsg ep = .ok result) :
    Answers table io result := by
  simp only [findNodeResponse, Fallible.bind_eq_ok, Fallible.pure_eq_ok] at hresponse
  obtain ⟨_, -, _, -, reply, -, rfl⟩ := hresponse
  exact ⟨rfl, fun hplaced => hplaced, _, rfl⟩

theorem answers_incomeRequest {table : KRoutingTable} {io : IoContext}
    {kMsg : KMessage} {ep : Endpoint} {result : KRoutingTable × IoContext}
    (hrequest : incomeRequest platform table io kMsg ep = .ok result) :
    Answers table io result := by
  rw [incomeRequest, Fallible.bind_eq_ok] at hrequest
  obtain ⟨rpc, -, hrequest⟩ := hrequest
  cases rpc with
  | ping => exact answers_pingResponse hrequest
  | findNode => exact answers_findNodeResponse hrequest
  | none =>
      obtain rfl := Fallible.pure_eq_ok.mp hrequest
      exact answers_refl table io

theorem answers_incomeMessage {table : KRoutingTable} {io : IoContext}
    {msg : Message} {ep : Endpoint} {result : KRoutingTable × IoContext}
    (hincome : incomeMessage platform table io msg ep = .ok result) :
    Answers table io result := by
  unfold incomeMessage at hincome
  cases hparam : msg.getParam "kademlia" with
  | none =>
      rw [hparam] at hincome
      obtain rfl := Fallible.pure_eq_ok.mp hincome
      exact answers_refl table io
  | some kParam =>
      simp only [hparam, Fallible.bind_eq_ok] at hincome
      obtain ⟨messageType, -, hincome⟩ := hincome
      cases messageType with
      | request => exact answers_incomeRequest hincome
      | response =>
          obtain rfl := Fallible.pure_eq_ok.mp hincome
          exact answers_refl table io

end RpcManager

end SsP2p.Kademlia

import SsP2p.Core.EndpointText
import SsP2p.Kademlia.DhtReads

/-!
# Dispatch by the type of a message

A request should be answered by the RPC manager and a response go to the observer that
waits for it.  `dht_manager::income_message` looks for an observer before anything looks
at the type, so that a request with the id of an observer is taken for its response.
-/

namespace SsP2p.Kademlia

namespace KMessage

def Rpc.text : Rpc → String
  | .ping => "ping"
  | .findNode => "find_node"
  | .none => "none"

def MessageType.text : MessageType → String
  | .request => "request"
  | .response => "response"

/-- A message with a well-formed Kademlia part of this kind. -/
structure WellFormed (platform : Platform) (msg : Message) (body : Json) (rpc : Rpc)
    (messageType : MessageType) (obsId : Uuid) : Prop where
  part : msg.getParam "kademlia" = some body
  rpcNamed : rpc ≠ .none
  rpcText : body.constSubscript "rpc" = .ok (.string rpc.text)
  typeText : body.constSubscript "type" = .ok (.string messageType.text)
  observerId : getObserverId platform ⟨body⟩ = .ok obsId
  ignoreEps : messageType = .request → rpc = .findNode →
    (getIgnoreEndpoint platform ⟨body⟩).isOk = true
  findedEps : messageType = .response → rpc = .findNode →
    (getFindedEndpoint platform ⟨body⟩).isOk = true

namespace WellFormed

variable {platform : Platform} {msg : Message} {body : Json} {rpc : Rpc}
  {messageType : MessageType} {obsId : Uuid}

theorem getRpc_eq (hmsg : WellFormed platform msg body rpc messageType obsId) :
    getRpc ⟨body⟩ = .ok rpc := by
  rw [getRpc, hmsg.rpcText, Fallible.ok_bind]
  cases rpc with
  | ping => rfl
  | findNode => rfl
  | none => exact absurd rfl hmsg.rpcNamed

theorem getMessageType_eq (hmsg : WellFormed platform msg body rpc messageType obsId) :
    getMessageType ⟨body⟩ = .ok messageType := by
  rw [getMessageType, hmsg.typeText, Fallible.ok_bind]
  cases messageType with
  | request => rfl
  | response => rfl

end WellFormed

def pingRequestBody (platform : Platform) (id : Uuid) : Json :=
  .object [("type", .string "request"), ("rpc", .string "ping"),
    ("observer_id", .string (platform.uuidToString id))]

theorem getObserverId_of_subscript {platform : Platform} (hreads : platform.ReadsBack)
    {body : Json} {id : Uuid} (hbody : body.subscript "observer_id" =
      .ok (.string (platform.uuidToString id))) :
    getObserverId platform ⟨body⟩ = .ok id := by
  rw [getObserverId, hbody, Fallible.ok_bind, Json.getString, Fallible.ok_bind,
    strToObserverId, hreads.uuid]

theorem wellFormed_pingRequestBody {platform : Platform} (hreads : platform.ReadsBack)
    (id : Uuid) :
    WellFormed platform (Message.ofPart "kademlia" (pingRequestBody platform id))
      (pingRequestBody platform id) .ping .request id where
  part := Message.getParam_ofPart "kademlia" _
  rpcNamed := by decide
  rpcText := by simp [pingRequestBody, Json.constSubscript, lookupField, Rpc.text]
  typeText := by simp [pingRequestBody, Json.constSubscript, lookupField, MessageType.text]
  observerId := getObserverId_of_subscript hreads (by
    simp [pingRequestBody, Json.subscript, lookupField])
  ignoreEps := by
    intro _ hrpc
    cases hrpc
  findedEps := by
    intro htype
    cases htype

end KMessage

/-- `ping_request` stores its observer and sends the request. -/
theorem RpcManager.pingRequest_eq (platform : Platform) (strage : KObserverStrage)
    (io : IoContext) (id : Uuid) (ep : Endpoint) (pongHandler timeoutHandler : Handler) :
    pingRequest platform strage io id ep pongHandler timeoutHandler =
      let pingObs := (Ping.make id io.now ep pongHandler timeoutHandler).init io
      .ok (strage.addPing pingObs.1,
        pingObs.2.asyncSend ep "kademlia" (KMessage.pingRequestBody platform id)) := by
  rfl

namespace KObserverStrage

/-- An observer of this kind has the id. -/
def Awaits (strage : KObserverStrage) (obsId : Uuid) : KMessage.Rpc → Prop
  | .ping => (strage.pings.find obsId).isSome = true
  | .findNode => (strage.findNodes.find obsId).isSome = true
  | .none => False

/-- All observers but the one of this kind with this id are as before. -/
structure OthersKept (before after : KObserverStrage) (obsId : Uuid)
    (rpc : KMessage.Rpc) : Prop where
  pings : ∀ id, rpc ≠ .ping ∨ id ≠ obsId → after.pings.find id = before.pings.find id
  findNodes : ∀ id, rpc ≠ .findNode ∨ id ≠ obsId →
    after.findNodes.find id = before.findNodes.find id

end KObserverStrage

namespace DhtManager

/-- A reply to a message: a response with the same rpc and observer id. -/
structure IsReply (body reply : Json) : Prop where
  messageType : reply.constSubscript "type" =
    .ok (.string (KMessage.MessageType.text .response))
  rpc : reply.constSubscript "rpc" = body.constSubscript "rpc"
  observerId : reply.subscript "observer_id" = body.subscript "observer_id"

/-- What is to happen to a request: no observer changes and no handler is invoked, and
one reply goes to the sender. -/
def Answered (manager : DhtManager) (io : IoContext) (body : Json) (ep : Endpoint)
    (result : Except Fault (DhtManager × IoContext)) : Prop :=
  ∃ next reply, result = .ok (next, io.asyncSend ep "kademlia" reply) ∧
    next.obsStrage = manager.obsStrage ∧ IsReply body reply

/-- The observer of this kind and id consumes the message: it is answered and its
handler is handed to the event loop.  Without such an observer nothing happens. -/
def ConsumedBy (platform : Platform) (manager : DhtManager) (io : IoContext)
    (body : Json) (obsId : Uuid) (next : DhtManager) (nextIo : IoContext) :
    KMessage.Rpc → Prop
  | .ping =>
      match manager.obsStrage.pings.find obsId with
      | some obs =>
          next.obsStrage.pings.find obsId = some obs.answered ∧
          nextIo = obs.incomeMessage io
      | none => next = manager ∧ nextIo = io
  | .findNode =>
      match manager.obsStrage.findNodes.find obsId with
      | some obs =>
          next.obsStrage.findNodes.find obsId = some obs.answered ∧
          ∃ findedEps, KMessage.getFindedEndpoint platform ⟨body⟩ = .ok findedEps ∧
            nextIo = obs.postAll io findedEps
      | none => next = manager ∧ nextIo = io
  | .none => False

/-- What is to happen to a response: the observer of its kind and id consumes it, or it
is dropped; no reply is sent and nothing else changes. -/
def Consumed (platform : Platform) (manager : DhtManager) (io : IoContext)
    (body : Json) (obsId : Uuid) (rpc : KMessage.Rpc)
    (result : Except Fault (DhtManager × IoContext)) : Prop :=
  ∃ next nextIo, result = .ok (next, nextIo) ∧
    manager.ConsumedBy platform io body obsId next nextIo rpc ∧
    KObserverStrage.OthersKept manager.obsStrage next.obsStrage obsId rpc ∧
    next.routingTable = manager.routingTable ∧ nextIo.sent = io.sent

def Dispatched (platform : Platform) (manager : DhtManager) (io : IoContext)
    (body : Json) (ep : Endpoint) (obsId : Uuid) (rpc : KMessage.Rpc)
    (result : Except Fault (DhtManager × IoContext)) : KMessage.MessageType → Prop
  | .request => manager.Answered io body ep result
  | .response => manager.Consumed platform io body obsId rpc result

section Dispatch

variable {platform : Platform} {msg : Message} {body : Json} {rpc : KMessage.Rpc}
  {messageType : KMessage.MessageType} {obsId : Uuid}

/-- A message that no observer has the id of goes to the RPC manager. -/
theorem incomeMessage_of_not_awaits
    (hmsg : KMessage.WellFormed platform msg body rpc messageType obsId)
    {manager : DhtManager} (hawaits : ¬ manager.obsStrage.Awaits obsId rpc)
    (io : IoContext) (ep : Endpoint) :
    manager.incomeMessage platform io msg ep =
      (RpcManager.incomeMessage platform manager.routingTable io msg ep).map
        fun answer => ({ manager with routingTable := answer.1 }, answer.2) := by
  have hreceiver : findReceiver manager.obsStrage obsId rpc = .rpcManager := by
    cases rpc with
    | ping =>
        rw [KObserverStrage.Awaits, Option.not_isSome_iff_eq_none] at hawaits
        rw [findReceiver, hawaits]
        rfl
    | findNode =>
        rw [KObserverStrage.Awaits, Option.not_isSome_iff_eq_none] at hawaits
        rw [findReceiver, hawaits]
        rfl
    | none => rfl
  simp only [incomeMessage, hmsg.part, receiverOf, hmsg.getRpc_eq, hmsg.observerId,
    Fallible.ok_bind, pure_bind, hreceiver]
  cases RpcManager.incomeMessage platform manager.routingTable io msg ep with
  | error fault => rfl
  | ok answer => rfl

/-- Turning the body of a request into a response keeps its rpc and observer id. -/
theorem isReply_assign (fields : List (String × Json)) :
    IsReply (.object fields)
      (.object (assignField "type" (.string "response") fields)) where
  messageType := Json.constSubscript_assignField_self _ _ _
  rpc := Json.constSubscript_assignField_of_ne (by decide) _ _
  observerId := Json.subscript_assignField_of_ne (by decide) _ _

/-- The endpoints that are put into a response are no part of the correlation. -/
theorem IsReply.of_assign {fields : List (String × Json)} {value reply : Json}
    (hreply : IsReply (.object (assignField "finded_eps" value fields)) reply) :
    IsReply (.object fields) reply where
  messageType := hreply.messageType
  rpc := by
    rw [hreply.rpc, Json.constSubscript_assignField_of_ne (by decide)]
  observerId := by
    rw [hreply.observerId, Json.subscript_assignField_of_ne (by decide)]

/-- The RPC manager answers every well-formed request. -/
theorem exists_reply_of_request
    (hmsg : KMessage.WellFormed platform msg body rpc .request obsId)
    (table : KRoutingTable) (io : IoContext) (ep : Endpoint) :
    ∃ next reply, RpcManager.incomeMessage platform table io msg ep =
      .ok (next, io.asyncSend ep "kademlia" reply) ∧ IsReply body reply := by
  obtain ⟨fields, hbody⟩ := KMessage.body_of_getRpc hmsg.getRpc_eq
  obtain rfl := KMessage.mk.inj hbody
  simp only [RpcManager.incomeMessage, hmsg.part, hmsg.getMessageType_eq,
    Fallible.ok_bind, RpcManager.incomeRequest, hmsg.getRpc_eq]
  cases rpc with
  | ping => exact ⟨_, _, rfl, isReply_assign fields⟩
  | findNode =>
      obtain ⟨ignoreEps, hignoreEps⟩ := Fallible.isOk_iff.mp (hmsg.ignoreEps rfl rfl)
      simp only [RpcManager.findNodeResponse, hignoreEps, Fallible.ok_bind]
      exact ⟨_, _, rfl, (isReply_assign _).of_assign⟩
  | none => exact absurd rfl hmsg.rpcNamed

/-- The RPC manager drops every well-formed response. -/
theorem incomeMessage_of_response
    (hmsg : KMessage.WellFormed platform msg body rpc .response obsId)
    (table : KRoutingTable) (io : IoContext) (ep : Endpoint) :
    RpcManager.incomeMessage platform table io msg ep = .ok (table, io) := by
  simp only [RpcManager.incomeMessage, hmsg.part, hmsg.getMessageType_eq,
    Fallible.ok_bind]
  rfl

/-- What a message does for which an observer of its kind and id is stored. -/
theorem consumedBy_of_awaits
    (hmsg : KMessage.WellFormed platform msg body rpc messageType obsId)
    {manager : DhtManager} (hawaits : manager.obsStrage.Awaits obsId rpc)
    (hfinded : rpc = .findNode →
      (KMessage.getFindedEndpoint platform ⟨body⟩).isOk = true)
    (io : IoContext) (ep : Endpoint) :
    manager.Consumed platform io body obsId rpc
      (manager.incomeMessage platform io msg ep) := by
  simp only [incomeMessage, hmsg.part, receiverOf, hmsg.getRpc_eq, hmsg.observerId,
    Fallible.ok_bind, pure_bind]
  cases rpc with
  | ping =>
      obtain ⟨obs, hfind⟩ := Option.isSome_iff_exists.mp hawaits
      have hid : obs.id = obsId := KeyedList.key_of_find hfind
      simp only [findReceiver, hfind, Option.map_some, Option.getD_some]
      refine ⟨_, _, rfl, ?_, ⟨?_, fun _ _ => rfl⟩, rfl, rfl⟩
      · rw [ConsumedBy, hfind]
        refine ⟨?_, rfl⟩
        simp [pingIncomeMessage, KObserverStrage.answerPing, KeyedList.find_modify,
          hid, hfind]
      · intro id hid'
        have hne : id ≠ obsId := hid'.resolve_left (not_not_intro rfl)
        simp [pingIncomeMessage, KObserverStrage.answerPing, KeyedList.find_modify,
          hid, hne]
  | findNode =>
      obtain ⟨obs, hfind⟩ := Option.isSome_iff_exists.mp hawaits
      obtain ⟨findedEps, hfindedEps⟩ := Fallible.isOk_iff.mp (hfinded rfl)
      have hid : obs.id = obsId := KeyedList.key_of_find hfind
      simp only [findReceiver, hfind, Option.map_some, Option.getD_some,
        findNodeIncomeMessage, hmsg.part, hfindedEps, Fallible.ok_bind, pure_bind]
      refine ⟨_, _, rfl, ?_, ⟨fun _ _ => rfl, ?_⟩, rfl, ?_⟩
      · rw [ConsumedBy, hfind]
        refine ⟨?_, findedEps, hfindedEps, rfl⟩
        simp [KObserverStrage.answerFindNode, KeyedList.find_modify, hid, hfind]
      · intro id hid'
        have hne : id ≠ obsId := hid'.resolve_left (not_not_intro rfl)
        simp [KObserverStrage.answerFindNode, KeyedList.find_modify, hid, hne]
      · rw [FindNode.postAll_eq]
  | none => exact absurd rfl hmsg.rpcNamed

theorem consumed_of_response
    (hmsg : KMessage.WellFormed platform msg body rpc .response obsId)
    (manager : DhtManager) (io : IoContext) (ep : Endpoint) :
    manager.Consumed platform io body obsId rpc
      (manager.incomeMessage platform io msg ep) := by
  by_cases hawaits : manager.obsStrage.Awaits obsId rpc
  · exact consumedBy_of_awaits hmsg hawaits (hmsg.findedEps rfl) io ep
  · rw [incomeMessage_of_not_awaits hmsg hawaits, incomeMessage_of_response hmsg]
    refine ⟨_, _, rfl, ?_, ⟨fun _ _ => rfl, fun _ _ => rfl⟩, rfl, rfl⟩
    cases rpc with
    | ping =>
        rw [KObserverStrage.Awaits, Option.not_isSome_iff_eq_none] at hawaits
        simp only [ConsumedBy, hawaits, and_self]
    | findNode =>
        rw [KObserverStrage.Awaits, Option.not_isSome_iff_eq_none] at hawaits
        simp only [ConsumedBy, hawaits, and_self]
    | none => exact absurd rfl hmsg.rpcNamed

theorem answered_of_request
    (hmsg : KMessage.WellFormed platform msg body rpc .request obsId)
    {manager : DhtManager} (hawaits : ¬ manager.obsStrage.Awaits obsId rpc)
    (io : IoContext) (ep : Endpoint) :
    manager.Answered io body ep (manager.incomeMessage platform io msg ep) := by
  obtain ⟨table, reply, hincome, hreply⟩ :=
    exists_reply_of_request hmsg manager.routingTable io ep
  rw [incomeMessage_of_not_awaits hmsg hawaits, hincome]
  exact ⟨_, reply, rfl, rfl, hreply⟩

/-- An observer that is stored for the id of a message keeps it from being answered. -/
theorem sent_of_awaits
    (hmsg : KMessage.WellFormed platform msg body rpc messageType obsId)
    {manager : DhtManager} (hawaits : manager.obsStrage.Awaits obsId rpc)
    {io : IoContext} {ep : Endpoint} {result : DhtManager × IoContext}
    (hincome : manager.incomeMessage platform io msg ep = .ok result) :
    result.2.sent = io.sent := by
  obtain ⟨receiver, hreceiver, hresult⟩ := exists_of_incomeMessage hmsg.part hincome
  simp only [DhtManager.receiver, hmsg.part, Option.bind_some, receiverOf,
    hmsg.getRpc_eq, hmsg.observerId, Fallible.ok_bind] at hreceiver
  have hfound : findReceiver manager.obsStrage obsId rpc = receiver :=
    Option.some.inj hreceiver
  cases receiver with
  | ping obs =>
      obtain rfl := hresult
      rfl
  | findNode obs =>
      obtain ⟨findedEps, -, -, rfl⟩ := hresult
      rw [FindNode.postAll_eq]
  | rpcManager =>
      cases rpc with
      | ping =>
          obtain ⟨obs, hfind⟩ := Option.isSome_iff_exists.mp hawaits
          simp [findReceiver, hfind] at hfound
      | findNode =>
          obtain ⟨obs, hfind⟩ := Option.isSome_iff_exists.mp hawaits
          simp [findReceiver, hfind] at hfound
      | none => exact absurd rfl hmsg.rpcNamed

/-- A well-formed message is dispatched by its type exactly when it is no request with
the id of a stored observer of its kind. -/
theorem dispatched_iff
    (hmsg : KMessage.WellFormed platform msg body rpc messageType obsId)
    (manager : DhtManager) (io : IoContext) (ep : Endpoint) :
    manager.Dispatched platform io body ep obsId rpc
        (manager.incomeMessage platform io msg ep) messageType ↔
      ¬ (messageType = .request ∧ manager.obsStrage.Awaits obsId rpc) := by
  cases messageType with
  | response => exact iff_of_true (consumed_of_response hmsg manager io ep) (by simp)
  | request =>
      constructor
      · rintro ⟨next, reply, hincome, -, -⟩ ⟨-, hawaits⟩
        have hsent := sent_of_awaits hmsg hawaits hincome
        simp [IoContext.asyncSend] at hsent
      · intro hnot
        exact answered_of_request hmsg (fun hawaits => hnot ⟨rfl, hawaits⟩) io ep

end Dispatch

/-- A request is answered at a node that stores no observer with its id. -/
theorem dispatched_pingAtPeer :
    (DhtManager.make (hostPlatform []) (nodeAt 2)).Dispatched (hostPlatform [])
      (.start 0) (KMessage.pingRequestBody (hostPlatform []) 7) (nodeAt 1) 7 .ping
      ((DhtManager.make (hostPlatform []) (nodeAt 2)).incomeMessage (hostPlatform [])
        (.start 0) (.ofPart "kademlia" (KMessage.pingRequestBody (hostPlatform []) 7))
        (nodeAt 1)) .request :=
  (dispatched_iff (KMessage.wellFormed_pingRequestBody (readsBack_hostPlatform []) 7)
    _ _ _).mpr (by simp [KObserverStrage.Awaits, make, KObserverStrage.empty])

/-- The request of a node that arrives back at it is taken for the pong. -/
theorem not_dispatched_ownRequest :
    ∃ strage io msg body,
      RpcManager.pingRequest (hostPlatform []) .empty (.start 0) 7 (nodeAt 2) .autoUpdate
        .null = .ok (strage, io) ∧ io.sent = [⟨nodeAt 2, msg⟩] ∧
      KMessage.WellFormed (hostPlatform []) msg body .ping .request 7 ∧
      ¬ DhtManager.Dispatched (hostPlatform [])
        { make (hostPlatform []) (nodeAt 1) with obsStrage := strage } io body
        (nodeAt 1) 7 .ping
        (DhtManager.incomeMessage (hostPlatform [])
          { make (hostPlatform []) (nodeAt 1) with obsStrage := strage } io msg
          (nodeAt 1)) .request := by
  refine ⟨_, _, _, _, RpcManager.pingRequest_eq .., rfl,
    KMessage.wellFormed_pingRequestBody (readsBack_hostPlatform []) 7, ?_⟩
  rintro ⟨next, reply, hincome, -, -⟩
  have hsent := sent_of_awaits
    (KMessage.wellFormed_pingRequestBody (readsBack_hostPlatform []) 7) (by rfl) hincome
  simp [IoContext.asyncSend] at hsent

end DhtManager

end SsP2p.Kademlia

import SsP2p.Core.FieldRead
import SsP2p.Kademlia.DhtManager

/-!
# The fields that the Kademlia layer reads

What `dht_manager::income_message` and the receivers behind it read of a message.
The layer handles a message exactly when all of these reads go through, and a message
that it handles may still change nothing.
-/

namespace SsP2p.Kademlia

namespace KMessage

/-- The rpc is only read from an object. -/
theorem body_of_getRpc {kMsg : KMessage} {rpc : Rpc} (hrpc : kMsg.getRpc = .ok rpc) :
    ∃ fields, kMsg = ⟨.object fields⟩ := by
  rw [getRpc, Fallible.bind_eq_ok] at hrpc
  obtain ⟨value, hvalue, -⟩ := hrpc
  cases kMsg with
  | mk body =>
      cases body with
      | object fields => exact ⟨fields, rfl⟩
      | _ => cases hvalue

theorem getRpc_ne_none (kMsg : KMessage) : kMsg.getRpc ≠ .ok .none := by
  intro hrpc
  rw [getRpc, Fallible.bind_eq_ok] at hrpc
  obtain ⟨value, -, hvalue⟩ := hrpc
  split at hvalue
  · cases hvalue
  · cases hvalue

theorem isOk_getRpc (body : Json) :
    (getRpc ⟨body⟩).isOk = (FieldRead.ofComparison "rpc" body).converts := by
  rw [getRpc, FieldRead.ofComparison]
  cases body.constSubscript "rpc" <;> rfl

theorem isOk_getMessageType (body : Json) :
    (getMessageType ⟨body⟩).isOk = (FieldRead.ofComparison "type" body).converts := by
  rw [getMessageType, FieldRead.ofComparison]
  cases body.constSubscript "type" <;> rfl

/-- `validate` tells what the comparisons rely on. -/
theorem validate_iff (body : Json) :
    validate ⟨body⟩ = true ↔
      (getRpc ⟨body⟩).isOk = true ∧ (getMessageType ⟨body⟩).isOk = true := by
  rw [isOk_getRpc, isOk_getMessageType, validate, FieldRead.ofComparison,
    FieldRead.ofComparison]
  cases body with
  | object fields =>
      simp only [Json.contains, Json.constSubscript, Bool.and_eq_true]
      cases lookupField "type" fields <;> cases lookupField "rpc" fields <;>
        simp
  | _ => simp [Json.contains, Json.constSubscript]

end KMessage

namespace RpcManager

variable (platform : Platform)

/-- What a request reads beyond its rpc. -/
def requestReads (kMsg : KMessage) : KMessage.Rpc → List FieldRead
  | .findNode => [.ofResult "ignore_eps" (kMsg.getIgnoreEndpoint platform)]
  | .ping | .none => []

/-- What `income_message` reads of a message with this rpc. -/
def reads (kMsg : KMessage) (rpc : KMessage.Rpc) : List FieldRead :=
  .ofComparison "type" kMsg.body ::
    match kMsg.getMessageType with
    | .ok .request => requestReads platform kMsg rpc
    | _ => []

/-- The routing table after a message: the sender of a ping request is added. -/
def tableAfter (table : KRoutingTable) (kMsg : KMessage) (ep : Endpoint) :
    KRoutingTable :=
  match kMsg.getMessageType, kMsg.getRpc with
  | .ok .request, .ok .ping => table.autoUpdateBatch platform [ep]
  | _, _ => table

variable {platform}

theorem isOk_incomeRequest_iff {kMsg : KMessage} {rpc : KMessage.Rpc}
    (hrpc : kMsg.getRpc = .ok rpc) (table : KRoutingTable) (io : IoContext)
    (ep : Endpoint) :
    (incomeRequest platform table io kMsg ep).isOk = true ↔
      AllConvert (requestReads platform kMsg rpc) := by
  obtain ⟨fields, rfl⟩ := KMessage.body_of_getRpc hrpc
  rw [incomeRequest, hrpc, Fallible.ok_bind]
  cases rpc with
  | ping =>
      have hanswer : (pingResponse platform table io ⟨.object fields⟩ ep).isOk = true :=
        rfl
      simpa [requestReads] using hanswer
  | findNode =>
      simp only [requestReads, FieldRead.ofResult, allConvert_cons, allConvert_nil,
        and_true]
      rw [findNodeResponse]
      cases KMessage.getIgnoreEndpoint platform ⟨.object fields⟩ with
      | error fault => exact Iff.rfl
      | ok ignoreEps => exact iff_of_true rfl rfl
  | none => simp [requestReads]

theorem isOk_incomeMessage_iff {msg : Message} {kParam : Json} {rpc : KMessage.Rpc}
    (hparam : msg.getParam "kademlia" = some kParam)
    (hrpc : KMessage.getRpc ⟨kParam⟩ = .ok rpc) (table : KRoutingTable)
    (io : IoContext) (ep : Endpoint) :
    (incomeMessage platform table io msg ep).isOk = true ↔
      AllConvert (reads platform ⟨kParam⟩ rpc) := by
  rw [reads, allConvert_cons, ← KMessage.isOk_getMessageType]
  simp only [incomeMessage, hparam]
  cases KMessage.getMessageType ⟨kParam⟩ with
  | error fault => simp
  | ok messageType =>
      cases messageType with
      | request =>
          rw [Fallible.ok_bind]
          simpa using
            isOk_incomeRequest_iff hrpc table io ep
      | response => exact iff_of_true rfl ⟨rfl, allConvert_nil⟩

/-- A request that is handled is answered. -/
theorem sent_of_incomeRequest {table : KRoutingTable} {io : IoContext}
    {kMsg : KMessage} {ep : Endpoint} {result : KRoutingTable × IoContext}
    (hrequest : incomeRequest platform table io kMsg ep = .ok result) :
    ∃ outgoing, result.2.sent = io.sent ++ [outgoing] := by
  rw [incomeRequest, Fallible.bind_eq_ok] at hrequest
  obtain ⟨rpc, hrpc, hrequest⟩ := hrequest
  cases rpc with
  | ping =>
      simp only [pingResponse, Fallible.bind_eq_ok, Fallible.pure_eq_ok] at hrequest
      obtain ⟨reply, -, rfl⟩ := hrequest
      exact ⟨_, rfl⟩
  | findNode =>
      simp only [findNodeResponse, Fallible.bind_eq_ok, Fallible.pure_eq_ok] at hrequest
      obtain ⟨_, -, _, -, reply, -, rfl⟩ := hrequest
      exact ⟨_, rfl⟩
  | none => exact absurd hrpc (KMessage.getRpc_ne_none kMsg)

/-- Only what counts as a response is handled without an effect. -/
theorem eq_self_iff_of_incomeMessage {msg : Message} {kParam : Json}
    {table : KRoutingTable} {io : IoContext} {ep : Endpoint}
    {result : KRoutingTable × IoContext}
    (hparam : msg.getParam "kademlia" = some kParam)
    (hincome : incomeMessage platform table io msg ep = .ok result) :
    result = (table, io) ↔ KMessage.getMessageType ⟨kParam⟩ = .ok .response := by
  simp only [incomeMessage, hparam, Fallible.bind_eq_ok] at hincome
  obtain ⟨messageType, hmessageType, hincome⟩ := hincome
  rw [hmessageType]
  cases messageType with
  | request =>
      obtain ⟨outgoing, hsent⟩ := sent_of_incomeRequest hincome
      apply iff_of_false
      · rintro rfl
        simp at hsent
      · intro heq
        cases heq
  | response =>
      obtain rfl := Fallible.pure_eq_ok.mp hincome
      exact iff_of_true rfl rfl

theorem eq_or_handedOver_lt {msg : Message} {kParam : Json} {table : KRoutingTable}
    {io : IoContext} {ep : Endpoint} {result : KRoutingTable × IoContext}
    (hparam : msg.getParam "kademlia" = some kParam)
    (hincome : incomeMessage platform table io msg ep = .ok result) :
    result.2 = io ∨ io.handedOver < result.2.handedOver := by
  have hsends := (answers_incomeMessage hincome).sends
  simp only [incomeMessage, hparam, Fallible.bind_eq_ok] at hincome
  obtain ⟨messageType, -, hincome⟩ := hincome
  cases messageType with
  | request =>
      apply Or.inr
      obtain ⟨outgoing, hsent⟩ := sent_of_incomeRequest hincome
      obtain ⟨sent, hsends⟩ := hsends
      rw [hsends] at hsent ⊢
      simp [IoContext.handedOver, show sent = _ from hsent]
  | response =>
      obtain rfl := Fallible.pure_eq_ok.mp hincome
      exact Or.inl rfl

theorem sent_prefix_of_incomeMessage {msg : Message} {kParam : Json}
    {table : KRoutingTable} {io : IoContext} {ep : Endpoint}
    {result : KRoutingTable × IoContext}
    (hparam : msg.getParam "kademlia" = some kParam)
    (hincome : incomeMessage platform table io msg ep = .ok result) :
    io.sent <+: result.2.sent := by
  simp only [incomeMessage, hparam, Fallible.bind_eq_ok] at hincome
  obtain ⟨messageType, -, hincome⟩ := hincome
  cases messageType with
  | request =>
      obtain ⟨outgoing, hsent⟩ := sent_of_incomeRequest hincome
      exact ⟨[outgoing], hsent.symm⟩
  | response =>
      obtain rfl := Fallible.pure_eq_ok.mp hincome
      exact List.prefix_rfl

theorem table_of_incomeMessage {msg : Message} {kParam : Json}
    {table : KRoutingTable} {io : IoContext} {ep : Endpoint}
    {result : KRoutingTable × IoContext}
    (hparam : msg.getParam "kademlia" = some kParam)
    (hincome : incomeMessage platform table io msg ep = .ok result) :
    result.1 = tableAfter platform table ⟨kParam⟩ ep := by
  simp only [incomeMessage, hparam, Fallible.bind_eq_ok] at hincome
  obtain ⟨messageType, hmessageType, hincome⟩ := hincome
  rw [tableAfter, hmessageType]
  cases messageType with
  | request =>
      simp only [incomeRequest, Fallible.bind_eq_ok] at hincome
      obtain ⟨rpc, hrpc, hincome⟩ := hincome
      rw [hrpc]
      cases rpc with
      | ping =>
          simp only [pingResponse, Fallible.bind_eq_ok, Fallible.pure_eq_ok] at hincome
          obtain ⟨reply, -, rfl⟩ := hincome
          rfl
      | findNode =>
          simp only [findNodeResponse, Fallible.bind_eq_ok, Fallible.pure_eq_ok] at hincome
          obtain ⟨_, -, _, -, reply, -, rfl⟩ := hincome
          rfl
      | none => exact absurd hrpc (KMessage.getRpc_ne_none _)
  | response =>
      obtain rfl := Fallible.pure_eq_ok.mp hincome
      rfl

end RpcManager

namespace Ping

/-- A pong is always handed to the event loop. -/
theorem handedOver_incomeMessage (obs : Ping) (io : IoContext) :
    io.handedOver < (obs.incomeMessage io).handedOver := by
  have hpost := io.handedOver_post (.pongHandler obs.id)
  have hcancel := (io.post (.pongHandler obs.id)).handedOver_le_cancel
    (· = .pingTimeout obs.id)
  rw [incomeMessage]
  omega

theorem incomeMessage_ne (obs : Ping) (io : IoContext) : obs.incomeMessage io ≠ io := by
  intro heq
  have hlt := obs.handedOver_incomeMessage io
  rw [heq] at hlt
  exact lt_irrefl _ hlt

end Ping

namespace FindNode

theorem postAll_eq_self_iff {obs : FindNode} {io : IoContext}
    {findedEps : List Endpoint} : obs.postAll io findedEps = io ↔ findedEps = [] := by
  rw [postAll_eq]
  constructor
  · intro heq
    have hready := congrArg IoContext.ready heq
    simpa using hready
  · rintro rfl
    simp

end FindNode

/-- Only an observer that may be deleted already is left as it is by an answer. -/
theorem KObserverStrage.answerFindNode_eq_self_iff {strage : KObserverStrage}
    {obs : FindNode} (hfind : strage.findNodes.find obs.id = some obs) :
    strage.answerFindNode obs.id = strage ↔ obs.base.expireAt = 0 := by
  have hanswered : obs.answered = obs ↔ obs.base.expireAt = 0 := by
    cases obs with
    | mk base responseHandler =>
        cases base
        simp [FindNode.answered, BaseObserver.destructSelf, eq_comm]
  have hmodify : strage.findNodes.modify obs.id FindNode.answered FindNode.id_answered =
      strage.findNodes ↔ obs.answered = obs :=
    KeyedList.modify_eq_self_iff_of_find hfind
  rw [← hanswered, ← hmodify]
  constructor
  · intro heq
    exact congrArg KObserverStrage.findNodes heq
  · intro heq
    rw [answerFindNode, heq]

namespace DhtManager

variable (platform : Platform)

/-- What the receiver of a message with this rpc reads. -/
def receiverReads (kMsg : KMessage) (rpc : KMessage.Rpc) : Receiver → List FieldRead
  | .ping _ => []
  | .findNode _ => [.ofResult "finded_eps" (kMsg.getFindedEndpoint platform)]
  | .rpcManager => RpcManager.reads platform kMsg rpc

/-- What the Kademlia layer reads of its part of a message. -/
def partReads (manager : DhtManager) (kMsg : KMessage) : List FieldRead :=
  .ofComparison "rpc" kMsg.body ::
    .ofResult "observer_id" (kMsg.getObserverId platform) ::
    match kMsg.getRpc, kMsg.getObserverId platform with
    | .ok rpc, .ok obsId =>
        receiverReads platform kMsg rpc (findReceiver manager.obsStrage obsId rpc)
    | _, _ => []

def reads (manager : DhtManager) (msg : Message) : List FieldRead :=
  match msg.getParam "kademlia" with
  | none => []
  | some kParam => manager.partReads platform ⟨kParam⟩

/-- The receiver does nothing with a message: the RPC manager with a response, a
find_node observer with no endpoint when it was answered before. -/
def Receiver.Ignores (kMsg : KMessage) : Receiver → Prop
  | .ping _ => False
  | .findNode obs =>
      kMsg.getFindedEndpoint platform = .ok [] ∧ obs.base.expireAt = 0
  | .rpcManager => kMsg.getMessageType = .ok .response

/-- The Kademlia layer does nothing with the message. -/
def Inert (manager : DhtManager) (msg : Message) : Prop :=
  ∀ kParam, msg.getParam "kademlia" = some kParam →
    ∃ receiver, manager.receiver platform msg = some receiver ∧
      receiver.Ignores platform ⟨kParam⟩

def tableAfter (manager : DhtManager) (msg : Message) (ep : Endpoint) :
    KRoutingTable :=
  match manager.receiver platform msg, msg.getParam "kademlia" with
  | some .rpcManager, some kParam =>
      RpcManager.tableAfter platform manager.routingTable ⟨kParam⟩ ep
  | _, _ => manager.routingTable

variable {platform}

theorem isOk_findNodeIncomeMessage {msg : Message} {kParam : Json}
    (hparam : msg.getParam "kademlia" = some kParam) (strage : KObserverStrage)
    (io : IoContext) (obs : FindNode) :
    (findNodeIncomeMessage platform strage io obs msg).isOk =
      (KMessage.getFindedEndpoint platform ⟨kParam⟩).isOk := by
  simp only [findNodeIncomeMessage, hparam]
  exact Fallible.isOk_bind_of_forall fun _ => rfl

/-- The Kademlia layer handles a message exactly when all of its reads go through. -/
theorem isOk_incomeMessage_iff (manager : DhtManager) (io : IoContext) (msg : Message)
    (ep : Endpoint) :
    (manager.incomeMessage platform io msg ep).isOk = true ↔
      AllConvert (manager.reads platform msg) := by
  rw [incomeMessage, reads]
  cases hparam : msg.getParam "kademlia" with
  | none => simp
  | some kParam =>
      simp only [partReads, allConvert_cons, ← KMessage.isOk_getRpc, receiverOf]
      cases hrpc : KMessage.getRpc ⟨kParam⟩ with
      | error fault => simp
      | ok rpc =>
          cases hobsId : KMessage.getObserverId platform ⟨kParam⟩ with
          | error fault => simp [FieldRead.ofResult]
          | ok obsId =>
              simp only [Fallible.ok_bind, pure_bind]
              cases findReceiver manager.obsStrage obsId rpc with
              | ping obs => exact iff_of_true rfl ⟨rfl, rfl, allConvert_nil⟩
              | findNode obs =>
                  rw [Fallible.isOk_bind_of_forall fun _ => rfl,
                    isOk_findNodeIncomeMessage hparam]
                  simp [receiverReads, FieldRead.ofResult]
              | rpcManager =>
                  rw [Fallible.isOk_bind_of_forall fun _ => rfl,
                    RpcManager.isOk_incomeMessage_iff hparam hrpc]
                  simp [receiverReads, FieldRead.ofResult]

/-- What a handled part of a message amounts to, for each receiver. -/
theorem exists_of_incomeMessage {manager : DhtManager} {io : IoContext}
    {msg : Message} {ep : Endpoint} {kParam : Json} {result : DhtManager × IoContext}
    (hparam : msg.getParam "kademlia" = some kParam)
    (hincome : manager.incomeMessage platform io msg ep = .ok result) :
    ∃ receiver, manager.receiver platform msg = some receiver ∧
      match receiver with
      | .ping obs =>
          result = ({ manager with obsStrage := manager.obsStrage.answerPing obs.id },
            obs.incomeMessage io)
      | .findNode obs => ∃ findedEps, manager.obsStrage.findNodes.find obs.id = some obs ∧
          KMessage.getFindedEndpoint platform ⟨kParam⟩ = .ok findedEps ∧
          result = ({ manager with obsStrage := manager.obsStrage.answerFindNode obs.id },
            obs.postAll io findedEps)
      | .rpcManager => ∃ answer,
          RpcManager.incomeMessage platform manager.routingTable io msg ep = .ok answer ∧
          result = ({ manager with routingTable := answer.1 }, answer.2) := by
  simp only [incomeMessage, hparam, Fallible.bind_eq_ok] at hincome
  obtain ⟨receiver, hreceiver, hincome⟩ := hincome
  have hfound : manager.receiver platform msg = some receiver := by
    rw [DhtManager.receiver, hparam, Option.bind_some, hreceiver]
    rfl
  refine ⟨receiver, hfound, ?_⟩
  cases receiver with
  | ping obs => exact (Fallible.pure_eq_ok.mp hincome).symm
  | findNode obs =>
      simp only [receiverOf, Fallible.bind_eq_ok, Fallible.pure_eq_ok] at hreceiver
      obtain ⟨rpc, -, obsId, -, hreceiver⟩ := hreceiver
      have hfind := findReceiver_eq_findNode hreceiver
      rw [← show obs.id = obsId from KeyedList.key_of_find hfind] at hfind
      simp only [findNodeIncomeMessage, hparam, Fallible.bind_eq_ok,
        Fallible.pure_eq_ok] at hincome
      obtain ⟨_, ⟨findedEps, hfinded, rfl⟩, rfl⟩ := hincome
      exact ⟨findedEps, hfind, hfinded, rfl⟩
  | rpcManager =>
      simp only [Fallible.bind_eq_ok, Fallible.pure_eq_ok] at hincome
      obtain ⟨answer, hanswer, rfl⟩ := hincome
      exact ⟨answer, hanswer, rfl⟩

theorem routingTable_of_incomeMessage {manager : DhtManager} {io : IoContext}
    {msg : Message} {ep : Endpoint} {result : DhtManager × IoContext}
    (hincome : manager.incomeMessage platform io msg ep = .ok result) :
    result.1.routingTable = manager.tableAfter platform msg ep := by
  cases hparam : msg.getParam "kademlia" with
  | none =>
      simp only [incomeMessage, hparam] at hincome
      obtain rfl := Fallible.pure_eq_ok.mp hincome
      simp [tableAfter, hparam]
  | some kParam =>
      obtain ⟨receiver, hreceiver, hresult⟩ := exists_of_incomeMessage hparam hincome
      rw [tableAfter, hreceiver, hparam]
      cases receiver with
      | ping obs =>
          obtain rfl := hresult
          rfl
      | findNode obs =>
          obtain ⟨findedEps, -, -, rfl⟩ := hresult
          rfl
      | rpcManager =>
          obtain ⟨answer, hanswer, rfl⟩ := hresult
          exact RpcManager.table_of_incomeMessage hparam hanswer

/-- What was sent before a message stays sent. -/
theorem sent_prefix_of_incomeMessage {manager : DhtManager} {io : IoContext}
    {msg : Message} {ep : Endpoint} {result : DhtManager × IoContext}
    (hincome : manager.incomeMessage platform io msg ep = .ok result) :
    io.sent <+: result.2.sent := by
  cases hparam : msg.getParam "kademlia" with
  | none =>
      simp only [incomeMessage, hparam] at hincome
      obtain rfl := Fallible.pure_eq_ok.mp hincome
      exact List.prefix_rfl
  | some kParam =>
      obtain ⟨receiver, -, hresult⟩ := exists_of_incomeMessage hparam hincome
      cases receiver with
      | ping obs =>
          obtain rfl := hresult
          exact List.prefix_rfl
      | findNode obs =>
          obtain ⟨findedEps, -, -, rfl⟩ := hresult
          rw [FindNode.postAll_eq]
      | rpcManager =>
          obtain ⟨answer, hanswer, rfl⟩ := hresult
          exact RpcManager.sent_prefix_of_incomeMessage hparam hanswer

/-- A message that is handled leaves the event loop alone or hands something to it. -/
theorem eq_or_handedOver_lt {manager : DhtManager} {io : IoContext} {msg : Message}
    {ep : Endpoint} {result : DhtManager × IoContext}
    (hincome : manager.incomeMessage platform io msg ep = .ok result) :
    result.2 = io ∨ io.handedOver < result.2.handedOver := by
  cases hparam : msg.getParam "kademlia" with
  | none =>
      simp only [incomeMessage, hparam] at hincome
      obtain rfl := Fallible.pure_eq_ok.mp hincome
      exact Or.inl rfl
  | some kParam =>
      obtain ⟨receiver, -, hresult⟩ := exists_of_incomeMessage hparam hincome
      cases receiver with
      | ping obs =>
          obtain rfl := hresult
          exact Or.inr (obs.handedOver_incomeMessage io)
      | findNode obs =>
          obtain ⟨findedEps, -, -, rfl⟩ := hresult
          by_cases hnone : findedEps = []
          · exact Or.inl (FindNode.postAll_eq_self_iff.mpr hnone)
          · apply Or.inr
            have hlength := List.length_pos_iff.mpr hnone
            simp only [FindNode.postAll_eq, IoContext.handedOver, List.length_append,
              List.length_map]
            omega
      | rpcManager =>
          obtain ⟨answer, hanswer, rfl⟩ := hresult
          exact RpcManager.eq_or_handedOver_lt hparam hanswer

/-- A message that is handled changes nothing exactly when it is inert. -/
theorem eq_self_iff_of_incomeMessage {manager : DhtManager} {io : IoContext}
    {msg : Message} {ep : Endpoint} {result : DhtManager × IoContext}
    (hincome : manager.incomeMessage platform io msg ep = .ok result) :
    result = (manager, io) ↔ manager.Inert platform msg := by
  cases hparam : msg.getParam "kademlia" with
  | none =>
      simp only [incomeMessage, hparam] at hincome
      obtain rfl := Fallible.pure_eq_ok.mp hincome
      exact iff_of_true rfl fun kParam hsome => by simp [hparam] at hsome
  | some kParam =>
      obtain ⟨receiver, hreceiver, hresult⟩ := exists_of_incomeMessage hparam hincome
      have hinert : manager.Inert platform msg ↔ receiver.Ignores platform ⟨kParam⟩ := by
        simp [Inert, hparam, hreceiver]
      rw [hinert]
      cases receiver with
      | ping obs =>
          obtain rfl := hresult
          apply iff_of_false
          · intro heq
            exact obs.incomeMessage_ne io (Prod.mk.inj heq).2
          · exact not_false
      | findNode obs =>
          obtain ⟨findedEps, hfind, hfinded, rfl⟩ := hresult
          have hmanager : { manager with
              obsStrage := manager.obsStrage.answerFindNode obs.id } = manager ↔
                obs.base.expireAt = 0 := by
            rw [← KObserverStrage.answerFindNode_eq_self_iff hfind]
            constructor
            · intro heq
              exact congrArg DhtManager.obsStrage heq
            · intro heq
              rw [heq]
          rw [Prod.mk.injEq, hmanager, FindNode.postAll_eq_self_iff, Receiver.Ignores,
            hfinded, Except.ok.injEq, and_comm]
      | rpcManager =>
          obtain ⟨answer, hanswer, rfl⟩ := hresult
          rw [Receiver.Ignores, ← RpcManager.eq_self_iff_of_incomeMessage hparam hanswer]
          constructor
          · intro heq
            have htable := congrArg (fun result => result.1.routingTable) heq
            exact Prod.ext htable (Prod.mk.inj heq).2
          · rintro rfl
            rfl

end DhtManager

end SsP2p.Kademlia

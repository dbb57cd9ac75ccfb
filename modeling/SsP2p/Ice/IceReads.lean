import SsP2p.Core.FieldRead
import SsP2p.Ice.IceAgent

/-!
# The fields that the ICE layer reads

What `ice_agent::income_message` and the observers and servers behind it read of a
message.  The layer handles a message exactly when all of these reads go through.
-/

namespace SsP2p.Ice

open Kademlia

namespace IceMessage

variable (platform : Platform)

/-- The reads of `getEndpoint`; the address has to be one. -/
def endpointReads (iceMsg : IceMessage) (ipKey portKey : String) : List FieldRead :=
  [.ofResult ipKey ((iceMsg.get ipKey).getString >>= parseAddress platform),
    .ofNumber portKey (iceMsg.get portKey)
      ((iceMsg.get portKey).getUShort platform.truncate)]

def observerIdRead (iceMsg : IceMessage) : FieldRead :=
  .ofResult "observer_id" (iceMsg.getObserverId platform)

def subProtocolRead (iceMsg : IceMessage) : FieldRead :=
  .ofNumber "sub_protocol" (iceMsg.get "sub_protocol") (iceMsg.getSubProtocol platform)

theorem isOk_getEndpoint_iff (iceMsg : IceMessage) (ipKey portKey : String) :
    (iceMsg.getEndpoint platform ipKey portKey).isOk = true ↔
      AllConvert (iceMsg.endpointReads platform ipKey portKey) := by
  simp only [getEndpoint, endpointReads, FieldRead.ofResult, FieldRead.ofNumber,
    allConvert_cons, allConvert_nil, and_true]
  cases (iceMsg.get ipKey).getString with
  | error fault => simp
  | ok ip =>
      cases (iceMsg.get portKey).getUShort platform.truncate with
      | error fault => simp
      | ok port =>
          simp only [Fallible.ok_bind, addrPairToEndpoint, Fallible.isOk_ok, and_true]
          rw [Fallible.isOk_bind_of_forall fun _ => rfl]

/-- The relay endpoints of a copy are those of the message and the added one. -/
theorem isOk_getRelayEndpoints_iff {iceMsg added : IceMessage} {ep : Endpoint}
    (hadd : iceMsg.addRelayEndpoint platform ep = .ok added) :
    (added.getRelayEndpoints platform).isOk = true ↔
      (iceMsg.getRelayEndpoints platform).isOk = true ∧
        (strToEndpoint platform (endpointToStr platform ep)).isOk = true := by
  obtain ⟨items, hitems, rfl⟩ := addRelayEndpoint_eq_ok_iff.mp hadd
  have hbefore : (iceMsg.getRelayEndpoints platform).isOk = true ↔
      ∀ item ∈ items,
        (item.getString >>= strToEndpoint platform : Except Fault Endpoint).isOk = true := by
    rcases hitems with harray | ⟨hnull, rfl⟩
    · simp only [getRelayEndpoints, harray]
      exact Fallible.isOk_mapM_iff
    · simp [getRelayEndpoints, hnull]
  rw [hbefore, getRelayEndpoints, get_set_self]
  simp only [Fallible.isOk_mapM_iff, List.forall_mem_append, List.forall_mem_singleton]
  rfl

theorem getRelayEndpoints_setSignalingSubProtocol (iceMsg : IceMessage)
    (p : SignalingSubProtocol) :
    (iceMsg.setSignalingSubProtocol p).getRelayEndpoints platform =
      iceMsg.getRelayEndpoints platform := by
  rw [getRelayEndpoints, getRelayEndpoints, get_setSignalingSubProtocol (by decide)]

end IceMessage

namespace SignalingServer

variable (platform : Platform) (selfEp : Endpoint) (table : KRoutingTable)

/-- What a node reads of a message that it is to relay. -/
def relayReads (iceMsg : IceMessage) (destEp : Endpoint) : List FieldRead :=
  ⟨"relay_eps", (iceMsg.addRelayEndpoint platform selfEp).isOk,
      (iceMsg.get "relay_eps").isArray⟩ ::
    if table.isExistEndpoint platform destEp then []
    else
      [.ofResult "relay_eps" (iceMsg.getRelayEndpoints platform),
        -- the entry that the node has added itself
        .ofResult "relay_eps" (strToEndpoint platform (endpointToStr platform selfEp)),
        .ofNumber "ttl" (iceMsg.get "ttl") (iceMsg.getTtl platform)]

def reads (iceMsg : IceMessage) : List FieldRead :=
  iceMsg.endpointReads platform "dest_ip" "dest_port" ++
    match iceMsg.getDestEndpoint platform with
    | .error _ => []
    | .ok destEp =>
        if destEp = selfEp then iceMsg.endpointReads platform "src_ip" "src_port"
        else relayReads platform selfEp table iceMsg destEp

variable {platform selfEp table}

theorem isOk_forward_iff {strage : IceObserverStrage} {io : IoContext} {id : Uuid}
    {iceMsg relayMsg : IceMessage} {destEp : Endpoint}
    (hrelay : relayMessage platform selfEp iceMsg = .ok relayMsg) :
    (forward platform table strage io id relayMsg destEp).isOk = true ↔
      (relayMsg.getRelayEndpoints platform).isOk = true ∧
        (iceMsg.getTtl platform).isOk = true := by
  have hcopy := isCopy_relayMessage hrelay
  rw [forward, getTtl_of_isCopy hcopy]
  cases relayMsg.getRelayEndpoints platform with
  | error fault => simp
  | ok relayEps =>
      cases iceMsg.getTtl platform with
      | error fault => simp
      | ok ttl =>
          obtain ⟨copy, hadd, -⟩ := exists_addRelayEndpoints platform hcopy
            (table.collectEndpoint platform destEp signalingFanOut relayEps)
          simp only [Fallible.ok_bind, hadd]
          split <;> simp

theorem isOk_incomeMessage_iff (strage : IceObserverStrage) (io : IoContext)
    (id : Uuid) (iceMsg : IceMessage) :
    (incomeMessage platform selfEp table strage io id iceMsg).isOk = true ↔
      AllConvert (reads platform selfEp table iceMsg) := by
  rw [incomeMessage, reads, allConvert_append, ← IceMessage.isOk_getEndpoint_iff,
    ← IceMessage.getDestEndpoint]
  cases hdest : iceMsg.getDestEndpoint platform with
  | error fault => simp
  | ok destEp =>
      simp only [Fallible.ok_bind, Fallible.isOk_ok, true_and]
      by_cases hself : destEp = selfEp
      · rw [if_pos hself, if_pos hself, ← IceMessage.isOk_getEndpoint_iff, answer,
          Fallible.isOk_bind_of_forall fun _ => rfl, IceMessage.getSrcEndpoint]
      · rw [if_neg hself, if_neg hself, relayReads, allConvert_cons]
        cases hadd : iceMsg.addRelayEndpoint platform selfEp with
        | error fault => simp [relayMessage, hadd]
        | ok added =>
            have hrelay : relayMessage platform selfEp iceMsg =
                .ok (added.setSignalingSubProtocol .relay) := by
              rw [relayMessage, hadd]
              rfl
            rw [hrelay, Fallible.ok_bind]
            by_cases hexist : table.isExistEndpoint platform destEp = true
            · rw [if_pos hexist, if_pos hexist]
              simp
            · rw [if_neg hexist, if_neg hexist, isOk_forward_iff hrelay,
                IceMessage.getRelayEndpoints_setSignalingSubProtocol,
                IceMessage.isOk_getRelayEndpoints_iff platform hadd]
              simp [FieldRead.ofResult, FieldRead.ofNumber, and_assoc]

end SignalingServer

namespace StunServer

variable {platform : Platform}

theorem isOk_incomeMessage_iff (io : IoContext) (iceMsg : IceMessage) (ep : Endpoint) :
    (incomeMessage platform io iceMsg ep).isOk = true ↔
      AllConvert [iceMsg.subProtocolRead platform] := by
  have hserver : (incomeMessage platform io iceMsg ep).isOk =
      (iceMsg.getSubProtocol platform).isOk := by
    apply Fallible.isOk_bind_of_forall
    intro subProtocol
    split <;> rfl
  simp [hserver, IceMessage.subProtocolRead, FieldRead.ofNumber]

end StunServer

namespace SignalingRequest

variable (platform : Platform)

def reads (obs : SignalingRequest) (iceMsg : IceMessage) : List FieldRead :=
  if obs.done then []
  else
    iceMsg.subProtocolRead platform ::
      match iceMsg.getSubProtocol platform with
      | .error _ => []
      | .ok subProtocol =>
          if subProtocol = SignalingSubProtocol.response.code then []
          else iceMsg.endpointReads platform "dest_ip" "dest_port"

variable {platform}

theorem isOk_incomeMessage_iff (obs : SignalingRequest) (selfEp : Endpoint)
    (io : IoContext) (iceMsg : IceMessage) :
    (obs.incomeMessage platform selfEp io iceMsg).isOk = true ↔
      AllConvert (obs.reads platform iceMsg) := by
  rw [incomeMessage, reads]
  cases obs.done with
  | true => simp
  | false =>
      simp only [Bool.false_eq_true, if_false, allConvert_cons,
        IceMessage.subProtocolRead, FieldRead.ofNumber]
      cases iceMsg.getSubProtocol platform with
      | error fault => simp
      | ok subProtocol =>
          simp only [Fallible.ok_bind, Fallible.isOk_ok, true_and]
          split
          · simp
          · rw [← IceMessage.isOk_getEndpoint_iff]
            apply Eq.congr_left
            apply Fallible.isOk_bind_of_forall
            intro destEp
            split <;> rfl

end SignalingRequest

def SignalingReceiver.reads (platform : Platform) (selfEp : Endpoint)
    (table : KRoutingTable) (iceMsg : IceMessage) : SignalingReceiver → List FieldRead
  | .relay _ | .response _ => []
  | .request obs => obs.reads platform iceMsg
  | .server => SignalingServer.reads platform selfEp table iceMsg

namespace IceAgent

variable (platform : Platform)

def signalingReads (agent : IceAgent) (table : KRoutingTable) (iceMsg : IceMessage) :
    List FieldRead :=
  iceMsg.observerIdRead platform ::
    match iceMsg.getObserverId platform with
    | .error _ => []
    | .ok obsId =>
        (agent.obsStrage.signalingReceiver obsId).reads platform agent.selfEp table iceMsg

def stunReads (agent : IceAgent) (iceMsg : IceMessage) : List FieldRead :=
  iceMsg.observerIdRead platform ::
    match iceMsg.getObserverId platform with
    | .error _ => []
    | .ok obsId =>
        match agent.obsStrage.bindings.find obsId with
        | some _ => iceMsg.endpointReads platform "global_ip" "global_port"
        | none => [iceMsg.subProtocolRead platform]

/-- What the ICE layer reads of its part of a message.  The protocol is read through
the subscript, which only raises on what is no object. -/
def partReads (agent : IceAgent) (table : KRoutingTable) (iceParam : Json) :
    List FieldRead :=
  match IceMessage.ofJson iceParam with
  | .error _ => [⟨"protocol", false, false⟩]
  | .ok iceMsg =>
      ⟨"protocol", true, (iceMsg.get "protocol").isString⟩ ::
        match iceMsg.getProtocol with
        | .signaling => agent.signalingReads platform table iceMsg
        | .stun => agent.stunReads platform iceMsg
        | .none => []

def reads (agent : IceAgent) (table : KRoutingTable) (msg : Message) : List FieldRead :=
  match msg.getParam "ice_agent" with
  | none => []
  | some iceParam => agent.partReads platform table iceParam

variable {platform}

theorem isOk_incomeSignaling_iff (agent : IceAgent) (table : KRoutingTable)
    (io : IoContext) (id : Uuid) (iceMsg : IceMessage) :
    (agent.incomeSignaling platform table io id iceMsg).isOk = true ↔
      AllConvert (agent.signalingReads platform table iceMsg) := by
  rw [incomeSignaling, signalingReads, allConvert_cons, IceMessage.observerIdRead,
    FieldRead.ofResult]
  cases iceMsg.getObserverId platform with
  | error fault => simp
  | ok obsId =>
      simp only [Fallible.ok_bind, Fallible.isOk_ok, true_and]
      cases agent.obsStrage.signalingReceiver obsId with
      | relay obs => simp [SignalingReceiver.reads]
      | request obs =>
          simp only [SignalingReceiver.reads]
          rw [← obs.isOk_incomeMessage_iff agent.selfEp io,
            Fallible.isOk_bind_of_forall fun _ => rfl]
      | response obs => simp [SignalingReceiver.reads]
      | server => exact SignalingServer.isOk_incomeMessage_iff _ io id iceMsg

theorem isOk_incomeStun_iff (agent : IceAgent) (io : IoContext) (iceMsg : IceMessage)
    (ep : Endpoint) :
    (agent.incomeStun platform io iceMsg ep).isOk = true ↔
      AllConvert (agent.stunReads platform iceMsg) := by
  rw [incomeStun, stunReads, allConvert_cons, IceMessage.observerIdRead,
    FieldRead.ofResult]
  cases iceMsg.getObserverId platform with
  | error fault => simp
  | ok obsId =>
      simp only [Fallible.ok_bind, Fallible.isOk_ok, true_and]
      cases agent.obsStrage.bindings.find obsId with
      | some obs =>
          simp only [← IceMessage.isOk_getEndpoint_iff]
          rw [Fallible.isOk_bind_of_forall fun _ => rfl, IceMessage.getGlobalEp]
      | none =>
          simp only [← StunServer.isOk_incomeMessage_iff io iceMsg ep]
          rw [Fallible.isOk_bind_of_forall fun _ => rfl]

/-- The ICE layer handles a message exactly when all of its reads go through. -/
theorem isOk_incomeMessage_iff (agent : IceAgent) (table : KRoutingTable)
    (io : IoContext) (id : Uuid) (msg : Message) (ep : Endpoint) :
    (agent.incomeMessage platform table io id msg ep).isOk = true ↔
      AllConvert (agent.reads platform table msg) := by
  rw [incomeMessage, reads]
  cases msg.getParam "ice_agent" with
  | none => simp
  | some iceParam =>
      simp only [partReads]
      cases IceMessage.ofJson iceParam with
      | error fault => simp
      | ok iceMsg =>
          simp only [Fallible.ok_bind, allConvert_cons, true_and]
          cases iceMsg.getProtocol with
          | signaling =>
              rw [Fallible.isOk_bind_of_forall fun _ => rfl]
              exact agent.isOk_incomeSignaling_iff table io id iceMsg
          | stun =>
              rw [Fallible.isOk_bind_of_forall fun _ => rfl]
              exact agent.isOk_incomeStun_iff io iceMsg ep
          | none => simp

end IceAgent

end SsP2p.Ice

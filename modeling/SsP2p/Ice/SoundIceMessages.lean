import SsP2p.Core.EncodableParts
import SsP2p.Core.OrderedReads
import SsP2p.Ice.RelayChain

/-!
# The ICE messages that nodes write

What a node puts into an ICE part when it asks, answers or relays, in a network of IPv4
endpoints.  The servers turn such messages into such messages again, and the order in
which the fields arrive makes no difference.
-/

namespace SsP2p.Ice

open Kademlia

namespace IceMessage

/-! ## Fields -/

theorem encodable_set {iceMsg : IceMessage} (hencodable : Bson.Encodable iceMsg.encode)
    {key : String} (hkey : Bson.GoodName key) {value : Json} (hvalue : Bson.Encodable value) :
    Bson.Encodable (iceMsg.set key value).encode :=
  Bson.encodable_assignField hencodable hkey hvalue

def ordered (iceMsg : IceMessage) : IceMessage := ⟨Json.orderedFields iceMsg.fields⟩

theorem encode_ordered (iceMsg : IceMessage) :
    iceMsg.encode.ordered = iceMsg.ordered.encode := by
  rw [encode, Json.ordered_object]
  rfl

theorem get_ordered (iceMsg : IceMessage) (key : String) :
    iceMsg.ordered.get key = (iceMsg.get key).ordered := by
  rw [get, get, ordered, Json.lookupField_orderedFields]
  cases lookupField key iceMsg.fields with
  | none => exact Json.ordered_null.symm
  | some value => rfl

theorem encodable_ordered {iceMsg : IceMessage} (hencodable : Bson.Encodable iceMsg.encode) :
    Bson.Encodable iceMsg.ordered.encode := by
  rw [← encode_ordered]
  exact (Json.everywhere_ordered Bson.documentNames_perm iceMsg.encode).mpr hencodable

variable (platform : Platform)

/-- An IPv4 endpoint stands under the two keys. -/
def NamesEndpoint (iceMsg : IceMessage) (ipKey portKey : String) : Prop :=
  ∃ ep : Endpoint, ep.IsV4 ∧
    iceMsg.get ipKey = .string (platform.addressToString ep.address) ∧
      iceMsg.get portKey = .integer ep.port.toNat

/-- The texts of some IPv4 endpoints are the relay endpoints. -/
def ListsRelays (iceMsg : IceMessage) : Prop :=
  ∃ eps : List Endpoint, (∀ ep ∈ eps, ep.IsV4) ∧
    iceMsg.get "relay_eps" = endpointTexts platform eps

structure SoundSignaling (iceMsg : IceMessage) (id : Uuid) : Prop where
  encodable : Bson.Encodable iceMsg.encode
  protocol : iceMsg.get "protocol" = .string "signaling"
  observerId : iceMsg.get "observer_id" = .string (platform.uuidToString id)
  subProtocol : ∃ p : SignalingSubProtocol, iceMsg.get "sub_protocol" = .integer p.code
  dest : iceMsg.NamesEndpoint platform "dest_ip" "dest_port"
  src : iceMsg.NamesEndpoint platform "src_ip" "src_port"
  relayEps : iceMsg.ListsRelays platform
  ttl : iceMsg.get "ttl" = .integer 5

structure SoundStun (iceMsg : IceMessage) (p : StunSubProtocol) (id : Uuid) : Prop where
  encodable : Bson.Encodable iceMsg.encode
  protocol : iceMsg.get "protocol" = .string "stun"
  observerId : iceMsg.get "observer_id" = .string (platform.uuidToString id)
  subProtocol : iceMsg.get "sub_protocol" = .integer p.code
  globalEp : p = .bindingResponse → iceMsg.NamesEndpoint platform "global_ip" "global_port"
  /-- A request holds no answer yet. -/
  unanswered : p = .bindingRequest → iceMsg.get "global_ip" = .null

/-- The ICE part, if there is one, is as a node writes it. -/
def SoundPart (msg : Message) : Prop :=
  ∀ part, msg.getParam "ice_agent" = some part → ∃ iceMsg : IceMessage, part = iceMsg.encode ∧
    ((∃ id, iceMsg.SoundSignaling platform id) ∨ ∃ p id, iceMsg.SoundStun platform p id)

variable {platform} {iceMsg : IceMessage}

/-! ## What arrives -/

theorem NamesEndpoint.ordered {ipKey portKey : String}
    (hnames : iceMsg.NamesEndpoint platform ipKey portKey) :
    iceMsg.ordered.NamesEndpoint platform ipKey portKey := by
  obtain ⟨ep, hv4, hip, hport⟩ := hnames
  refine ⟨ep, hv4, ?_, ?_⟩
  · rw [get_ordered, hip, Json.ordered_string]
  · rw [get_ordered, hport, Json.ordered_integer]

theorem SoundSignaling.ordered {id : Uuid} (hsound : iceMsg.SoundSignaling platform id) :
    iceMsg.ordered.SoundSignaling platform id where
  encodable := encodable_ordered hsound.encodable
  protocol := by rw [get_ordered, hsound.protocol, Json.ordered_string]
  observerId := by rw [get_ordered, hsound.observerId, Json.ordered_string]
  subProtocol := by
    obtain ⟨p, hp⟩ := hsound.subProtocol
    exact ⟨p, by rw [get_ordered, hp, Json.ordered_integer]⟩
  dest := hsound.dest.ordered
  src := hsound.src.ordered
  relayEps := by
    obtain ⟨eps, hv4, heps⟩ := hsound.relayEps
    exact ⟨eps, hv4, by rw [get_ordered, heps, Json.ordered_endpointTexts]⟩
  ttl := by rw [get_ordered, hsound.ttl, Json.ordered_integer]

theorem SoundStun.ordered {p : StunSubProtocol} {id : Uuid}
    (hsound : iceMsg.SoundStun platform p id) : iceMsg.ordered.SoundStun platform p id where
  encodable := encodable_ordered hsound.encodable
  protocol := by rw [get_ordered, hsound.protocol, Json.ordered_string]
  observerId := by rw [get_ordered, hsound.observerId, Json.ordered_string]
  subProtocol := by rw [get_ordered, hsound.subProtocol, Json.ordered_integer]
  globalEp hresponse := (hsound.globalEp hresponse).ordered
  unanswered hrequest := by rw [get_ordered, hsound.unanswered hrequest, Json.ordered_null]

theorem SoundPart.ordered {msg : Message} (hsound : SoundPart platform msg) :
    SoundPart platform msg.ordered := by
  intro part hpart
  rw [Message.getParam_ordered, Option.map_eq_some_iff] at hpart
  obtain ⟨sent, hsent, rfl⟩ := hpart
  obtain ⟨iceMsg, rfl, hkind⟩ := hsound sent hsent
  refine ⟨iceMsg.ordered, encode_ordered iceMsg, ?_⟩
  rcases hkind with ⟨id, hsignaling⟩ | ⟨p, id, hstun⟩
  · exact Or.inl ⟨id, hsignaling.ordered⟩
  · exact Or.inr ⟨p, id, hstun.ordered⟩

/-! ## What is read -/

theorem getEndpoint_of_get (hreads : platform.ReadsBack) {ipKey portKey : String} {ep : Endpoint}
    (hv4 : ep.IsV4) (hip : iceMsg.get ipKey = .string (platform.addressToString ep.address))
    (hport : iceMsg.get portKey = .integer ep.port.toNat) :
    iceMsg.getEndpoint platform ipKey portKey = .ok ep := by
  obtain ⟨bits, hbits⟩ := hv4
  have haddress : parseAddress platform (platform.addressToString ep.address) =
      .ok ep.address := by
    rw [parseAddress, hbits, hreads.address]
  have hread : (Json.integer ep.port.toNat).getUShort platform.truncate = .ok ep.port :=
    congrArg Except.ok (ofInt_toNat ep.port)
  rw [getEndpoint, hip, hport, Json.getString, Fallible.ok_bind, hread, Fallible.ok_bind,
    addrPairToEndpoint, haddress]
  rfl

theorem getEndpoint_of_names (hreads : platform.ReadsBack) {ipKey portKey : String}
    (hnames : iceMsg.NamesEndpoint platform ipKey portKey) :
    ∃ ep : Endpoint, ep.IsV4 ∧ iceMsg.getEndpoint platform ipKey portKey = .ok ep := by
  obtain ⟨ep, hv4, hip, hport⟩ := hnames
  exact ⟨ep, hv4, getEndpoint_of_get hreads hv4 hip hport⟩

theorem getObserverId_of_get (hreads : platform.ReadsBack) {id : Uuid}
    (hid : iceMsg.get "observer_id" = .string (platform.uuidToString id)) :
    iceMsg.getObserverId platform = .ok id := by
  rw [getObserverId, hid, Json.getString, Fallible.ok_bind, strToObserverId, hreads.uuid]

theorem getSubProtocol_of_code {code : ℕ} (hsmall : code < 2 ^ 32)
    (hcode : iceMsg.get "sub_protocol" = .integer code) :
    iceMsg.getSubProtocol platform = .ok code := by
  rw [getSubProtocol, hcode, Json.getEnum]
  refine congrArg Except.ok ?_
  omega

theorem getRelayEndpoints_of_lists (hreads : platform.ReadsBack)
    (hlists : iceMsg.ListsRelays platform) :
    ∃ eps, iceMsg.getRelayEndpoints platform = .ok eps := by
  obtain ⟨eps, hv4, heps⟩ := hlists
  exact ⟨eps, (SignalingServer.getRelayEndpoints_of_items (Or.inl heps)).trans
    (SignalingServer.mapM_relayEntry hreads hv4)⟩

theorem SoundSignaling.getProtocol {id : Uuid} (hsound : iceMsg.SoundSignaling platform id) :
    iceMsg.getProtocol = .signaling := by
  rw [IceMessage.getProtocol, hsound.protocol]
  rfl

theorem SoundStun.getProtocol {p : StunSubProtocol} {id : Uuid}
    (hsound : iceMsg.SoundStun platform p id) : iceMsg.getProtocol = .stun := by
  rw [IceMessage.getProtocol, hsound.protocol]
  rfl

theorem SoundSignaling.getSubProtocol {id : Uuid}
    (hsound : iceMsg.SoundSignaling platform id) :
    ∃ code, iceMsg.getSubProtocol platform = .ok code := by
  obtain ⟨p, hp⟩ := hsound.subProtocol
  exact ⟨p.code, getSubProtocol_of_code (by cases p <;> decide) hp⟩

theorem SoundStun.getSubProtocol {p : StunSubProtocol} {id : Uuid}
    (hsound : iceMsg.SoundStun platform p id) :
    iceMsg.getSubProtocol platform = .ok p.code :=
  getSubProtocol_of_code (by cases p <;> decide) hsound.subProtocol

/-- From a request no endpoint can be read. -/
theorem SoundStun.getGlobalEp_ne_ok {id : Uuid}
    (hsound : iceMsg.SoundStun platform .bindingRequest id) (ep : Endpoint) :
    iceMsg.getGlobalEp platform ≠ .ok ep := by
  rw [getGlobalEp, getEndpoint, hsound.unanswered rfl]
  intro hread
  cases hread

theorem SoundStun.getGlobalEp_ordered (hreads : platform.ReadsBack) {id : Uuid}
    (hsound : iceMsg.SoundStun platform .bindingResponse id) :
    iceMsg.ordered.getGlobalEp platform = iceMsg.getGlobalEp platform := by
  obtain ⟨ep, hv4, hip, hport⟩ := hsound.globalEp rfl
  rw [getGlobalEp, getGlobalEp, getEndpoint_of_get hreads hv4 hip hport]
  apply getEndpoint_of_get hreads hv4
  · rw [get_ordered, hip, Json.ordered_string]
  · rw [get_ordered, hport, Json.ordered_integer]

/-! ## What is written -/

theorem NamesEndpoint.of_get_eq {other : IceMessage} {ipKey portKey : String}
    (hnames : iceMsg.NamesEndpoint platform ipKey portKey)
    (hip : other.get ipKey = iceMsg.get ipKey)
    (hport : other.get portKey = iceMsg.get portKey) :
    other.NamesEndpoint platform ipKey portKey := by
  obtain ⟨ep, hv4, hipText, hportNumber⟩ := hnames
  exact ⟨ep, hv4, hip.trans hipText, hport.trans hportNumber⟩

theorem namesEndpoint_setEndpoint {ipKey portKey : String} (hne : ipKey ≠ portKey)
    {ep : Endpoint} (hv4 : ep.IsV4) (iceMsg : IceMessage) :
    (iceMsg.setEndpoint platform ipKey portKey ep).NamesEndpoint platform ipKey portKey := by
  refine ⟨ep, hv4, ?_, get_set_self _ _ _⟩
  rw [setEndpoint, get_set_of_ne hne, get_set_self]

theorem get_setEndpoint {ipKey portKey key : String} (hip : key ≠ ipKey)
    (hport : key ≠ portKey) (iceMsg : IceMessage) (ep : Endpoint) :
    (iceMsg.setEndpoint platform ipKey portKey ep).get key = iceMsg.get key := by
  rw [setEndpoint, get_set_of_ne hport, get_set_of_ne hip]

theorem encodable_setEndpoint (hshort : platform.ShortTexts)
    (hencodable : Bson.Encodable iceMsg.encode) {ipKey portKey : String}
    (hip : Bson.GoodName ipKey) (hport : Bson.GoodName portKey) (ep : Endpoint) :
    Bson.Encodable (iceMsg.setEndpoint platform ipKey portKey ep).encode :=
  encodable_set
    (encodable_set hencodable hip (Bson.ShortText.encodable (hshort.address ep.address)))
    hport (encodable_port ep.port)

/-- A message that was just built. -/
theorem encodable_make (p : Protocol) : Bson.Encodable (make p).encode := by
  have hnames : Bson.DocumentNames ["protocol", "relay_eps", "ttl"] := by decide
  have hlist : Bson.Encodable (.array []) := .array [] fun _ hitem => by cases hitem
  have hcount : Bson.Encodable (.integer 5) := Bson.encodable_integer (by decide)
  refine .object _ hnames ?_
  simp only [make, List.forall_mem_cons, List.not_mem_nil, false_imp_iff, implies_true, and_true]
  refine ⟨?_, hlist, hcount⟩
  cases p with
  | signaling => exact Bson.encodable_string (by decide) (by decide)
  | stun => exact Bson.encodable_string (by decide) (by decide)
  | none => exact Bson.encodable_string (by decide) (by decide)

/-! ## Signaling -/

theorem encodable_code (code : ℕ) (hsmall : code < 2 ^ 32) :
    Bson.Encodable (.integer code) := by
  refine Bson.encodable_integer ?_
  unfold LittleEndian.Fits
  omega

theorem SoundSignaling.setSubProtocol {id : Uuid} (hsound : iceMsg.SoundSignaling platform id)
    (p : SignalingSubProtocol) :
    (iceMsg.setSignalingSubProtocol p).SoundSignaling platform id where
  encodable := encodable_set hsound.encodable (by decide)
    (encodable_code p.code (by cases p <;> decide))
  protocol := (get_setSignalingSubProtocol (by decide) _ _).trans hsound.protocol
  observerId := (get_setSignalingSubProtocol (by decide) _ _).trans hsound.observerId
  subProtocol := ⟨p, get_set_self _ _ _⟩
  dest := hsound.dest.of_get_eq (get_setSignalingSubProtocol (by decide) _ _)
    (get_setSignalingSubProtocol (by decide) _ _)
  src := hsound.src.of_get_eq (get_setSignalingSubProtocol (by decide) _ _)
    (get_setSignalingSubProtocol (by decide) _ _)
  relayEps := by
    obtain ⟨eps, hv4, heps⟩ := hsound.relayEps
    exact ⟨eps, hv4, (get_setSignalingSubProtocol (by decide) _ _).trans heps⟩
  ttl := (get_setSignalingSubProtocol (by decide) _ _).trans hsound.ttl

/-- One more relay endpoint. -/
theorem SoundSignaling.addRelayEndpoint (hshort : platform.ShortTexts) {id : Uuid}
    (hsound : iceMsg.SoundSignaling platform id) {ep : Endpoint} (hv4 : ep.IsV4) :
    ∃ added, iceMsg.addRelayEndpoint platform ep = .ok added ∧
      added.SoundSignaling platform id := by
  obtain ⟨eps, heps, hlist⟩ := hsound.relayEps
  have hadded : endpointTexts platform (eps ++ [ep]) =
      .array (eps.map (fun ep => .string (endpointToStr platform ep)) ++
        [.string (endpointToStr platform ep)]) := by
    rw [endpointTexts, List.map_append, List.map_singleton]
  refine ⟨_, addRelayEndpoint_eq_ok_iff.mpr ⟨_, Or.inl hlist, rfl⟩, ?_⟩
  rw [← hadded]
  exact {
    encodable := encodable_set hsound.encodable (by decide) (encodable_endpointTexts hshort _)
    protocol := (get_set_of_ne (by decide) _ _).trans hsound.protocol
    observerId := (get_set_of_ne (by decide) _ _).trans hsound.observerId
    subProtocol := by
      obtain ⟨p, hp⟩ := hsound.subProtocol
      exact ⟨p, (get_set_of_ne (by decide) _ _).trans hp⟩
    dest := hsound.dest.of_get_eq (get_set_of_ne (by decide) _ _)
      (get_set_of_ne (by decide) _ _)
    src := hsound.src.of_get_eq (get_set_of_ne (by decide) _ _)
      (get_set_of_ne (by decide) _ _)
    relayEps := by
      refine ⟨eps ++ [ep], ?_, get_set_self _ _ _⟩
      rw [List.forall_mem_append, List.forall_mem_singleton]
      exact ⟨heps, hv4⟩
    ttl := (get_set_of_ne (by decide) _ _).trans hsound.ttl }

theorem SoundSignaling.addRelayEndpoints (hshort : platform.ShortTexts) {id : Uuid}
    {eps : List Endpoint} (hv4 : ∀ ep ∈ eps, ep.IsV4) {iceMsg : IceMessage}
    (hsound : iceMsg.SoundSignaling platform id) :
    ∃ added, SignalingServer.addRelayEndpoints platform iceMsg eps = .ok added ∧
      added.SoundSignaling platform id := by
  induction eps generalizing iceMsg with
  | nil => exact ⟨iceMsg, rfl, hsound⟩
  | cons ep eps ih =>
      obtain ⟨hep, heps⟩ := List.forall_mem_cons.mp hv4
      obtain ⟨first, hfirst, hfirstSound⟩ := hsound.addRelayEndpoint hshort hep
      obtain ⟨added, hadded, haddedSound⟩ := ih heps hfirstSound
      refine ⟨added, ?_, haddedSound⟩
      rw [SignalingServer.addRelayEndpoints, List.foldlM_cons, hfirst]
      exact hadded

/-- The fields that `signaling_request::init` does not set are those of a new message. -/
theorem get_requestMessage (obs : SignalingRequest) (selfEp : Endpoint) {key : String}
    (hkey : key ∉ ["observer_id", "sub_protocol", "dest_ip", "dest_port", "src_ip",
      "src_port"]) :
    (obs.requestMessage platform selfEp).get key = (make .signaling).get key := by
  simp only [List.mem_cons, List.not_mem_nil, or_false, not_or] at hkey
  obtain ⟨hid, hsub, hdestIp, hdestPort, hsrcIp, hsrcPort⟩ := hkey
  rw [SignalingRequest.requestMessage, setSrcEndpoint, get_setEndpoint hsrcIp hsrcPort,
    setDestEndpoint, get_setEndpoint hdestIp hdestPort, get_setSignalingSubProtocol hsub,
    setObserverId, get_set_of_ne hid]

/-- The message of `signaling_request::init`. -/
theorem soundSignaling_requestMessage (hshort : platform.ShortTexts) (obs : SignalingRequest)
    (hdest : obs.ep.IsV4) {selfEp : Endpoint} (hself : selfEp.IsV4) :
    (obs.requestMessage platform selfEp).SoundSignaling platform obs.id where
  encodable := by
    have hid : Bson.Encodable (((make .signaling).setObserverId platform obs.id).encode) :=
      encodable_set (encodable_make _) (by decide) (Bson.ShortText.encodable (hshort.uuid _))
    have hcode : Bson.Encodable ((((make .signaling).setObserverId platform
        obs.id).setSignalingSubProtocol .request).encode) :=
      encodable_set hid (by decide) (encodable_code _ (by decide))
    exact encodable_setEndpoint hshort
      (encodable_setEndpoint hshort hcode (by decide) (by decide) obs.ep) (by decide)
        (by decide) selfEp
  protocol := get_requestMessage obs selfEp (by decide)
  observerId := by
    rw [SignalingRequest.requestMessage, setSrcEndpoint,
      get_setEndpoint (by decide) (by decide), setDestEndpoint,
      get_setEndpoint (by decide) (by decide), get_setSignalingSubProtocol (by decide),
      setObserverId, get_set_self]
  subProtocol := by
    refine ⟨.request, ?_⟩
    rw [SignalingRequest.requestMessage, setSrcEndpoint,
      get_setEndpoint (by decide) (by decide), setDestEndpoint,
      get_setEndpoint (by decide) (by decide), setSignalingSubProtocol, get_set_self]
  dest := by
    rw [SignalingRequest.requestMessage, setSrcEndpoint]
    have hnames : ((((make .signaling).setObserverId platform obs.id).setSignalingSubProtocol
        .request).setDestEndpoint platform obs.ep).NamesEndpoint platform "dest_ip"
          "dest_port" := namesEndpoint_setEndpoint (by decide) hdest _
    exact hnames.of_get_eq (get_setEndpoint (by decide) (by decide) _ _)
      (get_setEndpoint (by decide) (by decide) _ _)
  src := namesEndpoint_setEndpoint (by decide) hself _
  relayEps := ⟨[], by simp, get_requestMessage obs selfEp (by decide)⟩
  ttl := get_requestMessage obs selfEp (by decide)

/-! ## STUN -/

/-- The message of `binding_request`. -/
theorem soundStun_request (hshort : platform.ShortTexts) (id : Uuid) :
    (((make .stun).setObserverId platform id).setStunSubProtocol .bindingRequest).SoundStun
      platform .bindingRequest id where
  encodable := by
    have hid : Bson.Encodable (((make .stun).setObserverId platform id).encode) :=
      encodable_set (encodable_make _) (by decide) (Bson.ShortText.encodable (hshort.uuid _))
    exact encodable_set hid (by decide) (encodable_code _ (by decide))
  protocol := by
    rw [setStunSubProtocol, get_set_of_ne (by decide), setObserverId,
      get_set_of_ne (by decide)]
    rfl
  observerId := by
    rw [setStunSubProtocol, get_set_of_ne (by decide), setObserverId, get_set_self]
  subProtocol := get_set_self _ _ _
  globalEp := nofun
  unanswered _ := by
    rw [setStunSubProtocol, get_set_of_ne (by decide), setObserverId,
      get_set_of_ne (by decide)]
    rfl

/-- The answer names the endpoint that it goes to. -/
theorem getGlobalEp_responseMessage (hreads : platform.ReadsBack) (iceMsg : IceMessage)
    {ep : Endpoint} (hv4 : ep.IsV4) :
    (StunServer.responseMessage platform iceMsg ep).getGlobalEp platform = .ok ep := by
  have hne : "global_ip" ≠ "global_port" := by decide
  apply getEndpoint_of_get hreads hv4
  · rw [StunServer.responseMessage, setGlobalEp, setEndpoint, get_set_of_ne hne, get_set_self]
  · rw [StunServer.responseMessage, setGlobalEp, setEndpoint, get_set_self]

/-- The answer to a binding request. -/
theorem SoundStun.responseMessage (hshort : platform.ShortTexts) {id : Uuid}
    (hsound : iceMsg.SoundStun platform .bindingRequest id) {ep : Endpoint} (hv4 : ep.IsV4) :
    (StunServer.responseMessage platform iceMsg ep).SoundStun platform .bindingResponse id where
  encodable := encodable_setEndpoint hshort
    (encodable_set hsound.encodable (by decide) (encodable_code _ (by decide))) (by decide)
      (by decide) ep
  protocol := by
    rw [StunServer.responseMessage, setGlobalEp, get_setEndpoint (by decide) (by decide),
      setStunSubProtocol, get_set_of_ne (by decide), hsound.protocol]
  observerId := by
    rw [StunServer.responseMessage, setGlobalEp, get_setEndpoint (by decide) (by decide),
      setStunSubProtocol, get_set_of_ne (by decide), hsound.observerId]
  subProtocol := by
    rw [StunServer.responseMessage, setGlobalEp, get_setEndpoint (by decide) (by decide),
      setStunSubProtocol, get_set_self]
  globalEp _ := namesEndpoint_setEndpoint (by decide) hv4 _
  unanswered := nofun

end IceMessage

namespace SignalingServer

variable {platform : Platform} {selfEp : Endpoint} {table : KRoutingTable}

/-- The signaling server handles what a node writes: it stores at most one observer and
sends one message under the same id to some endpoints. -/
theorem exists_sent_of_sound (hreads : platform.ReadsBack) (hshort : platform.ShortTexts)
    {iceMsg : IceMessage} {msgId : Uuid} (hsound : iceMsg.SoundSignaling platform msgId)
    (hself : selfEp.IsV4) (hknown : ∀ ep, table.Knows ep → ep.IsV4)
    (strage : IceObserverStrage) (io : IoContext) (id : Uuid) :
    ∃ next copy eps, incomeMessage platform selfEp table strage io id iceMsg =
        .ok (next, sendAll io copy eps) ∧ copy.SoundSignaling platform msgId := by
  obtain ⟨destEp, -, hdest⟩ := IceMessage.getEndpoint_of_names hreads hsound.dest
  obtain ⟨srcEp, -, hsrc⟩ := IceMessage.getEndpoint_of_names hreads hsound.src
  have hdestRead : iceMsg.getDestEndpoint platform = .ok destEp := hdest
  have hsrcRead : iceMsg.getSrcEndpoint platform = .ok srcEp := hsrc
  simp only [incomeMessage, hdestRead, Fallible.ok_bind]
  split_ifs with hdestSelf hexist
  · simp only [answer, hsrcRead, Fallible.ok_bind]
    exact ⟨_, _, _, rfl, hsound.setSubProtocol .response⟩
  all_goals
    obtain ⟨added, hadded, haddedSound⟩ := hsound.addRelayEndpoint hshort hself
    have hrelay : relayMessage platform selfEp iceMsg =
        .ok (added.setSignalingSubProtocol .relay) := by
      rw [relayMessage, hadded]
      rfl
    have hrelaySound := haddedSound.setSubProtocol .relay
    rw [hrelay, Fallible.ok_bind]
  · exact ⟨_, _, _, rfl, hrelaySound⟩
  · obtain ⟨relayEps, hrelayEps⟩ :=
      IceMessage.getRelayEndpoints_of_lists hreads hrelaySound.relayEps
    have httl : (added.setSignalingSubProtocol .relay).getTtl platform = .ok 5 := by
      rw [IceMessage.getTtl, hrelaySound.ttl]
      rfl
    have hv4 : ∀ ep ∈ table.collectEndpoint platform destEp signalingFanOut relayEps,
        ep.IsV4 := fun ep hep => hknown ep (KRoutingTable.mem_collectEndpoint hep).1
    obtain ⟨copy, hcopy, hcopySound⟩ := hrelaySound.addRelayEndpoints hshort hv4
    simp only [forward, hrelayEps, httl, Fallible.ok_bind, hcopy]
    exact ⟨_, _, _, rfl, hcopySound⟩

end SignalingServer

namespace StunServer

variable {platform : Platform}

/-- The STUN server answers a request and drops everything else. -/
theorem incomeMessage_of_sound {iceMsg : IceMessage}
    {p : StunSubProtocol} {id : Uuid} (hsound : iceMsg.SoundStun platform p id)
    (io : IoContext) (ep : Endpoint) :
    incomeMessage platform io iceMsg ep = .ok (match p with
      | .bindingRequest =>
          SignalingServer.sendAll io (responseMessage platform iceMsg ep) [ep]
      | .bindingResponse => io) := by
  rw [incomeMessage, hsound.getSubProtocol, Fallible.ok_bind]
  cases p with
  | bindingRequest => rfl
  | bindingResponse => rfl

end StunServer

end SsP2p.Ice

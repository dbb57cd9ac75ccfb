import SsP2p.Core.EncodableParts
import SsP2p.Core.OrderedReads
import SsP2p.Kademlia.FindNodeExchange

/-!
# The Kademlia messages that nodes write

What a node puts into a Kademlia part when it asks or answers, in a network of IPv4
endpoints.  A reply to such a part is one again, and the order in which the fields arrive
makes no difference.
-/

namespace SsP2p.Kademlia

namespace KMessage

/-- The texts of some IPv4 endpoints stand under the key. -/
def ListsEndpoints (platform : Platform) (body : Json) (key : String) : Prop :=
  ∃ eps : List Endpoint, (∀ ep ∈ eps, ep.IsV4) ∧
    body.subscript key = .ok (endpointTexts platform eps)

structure Sound (platform : Platform) (body : Json) (rpc : Rpc) (messageType : MessageType)
    (id : Uuid) : Prop where
  encodable : Bson.Encodable body
  rpcNamed : rpc ≠ .none
  rpcText : body.constSubscript "rpc" = .ok (.string rpc.text)
  typeText : body.constSubscript "type" = .ok (.string messageType.text)
  observerId : body.subscript "observer_id" = .ok (.string (platform.uuidToString id))
  ignoreEps : messageType = .request → rpc = .findNode →
    ListsEndpoints platform body "ignore_eps"
  findedEps : messageType = .response → rpc = .findNode →
    ListsEndpoints platform body "finded_eps"
  /-- A request holds no answer yet. -/
  unanswered : messageType = .request → body.subscript "finded_eps" = .ok .null

variable {platform : Platform}

theorem getEndpoints_of_listsEndpoints (hreads : platform.ReadsBack) {body : Json}
    {key : String} (hlists : ListsEndpoints platform body key) :
    ∃ eps, (∀ ep ∈ eps, ep.IsV4) ∧ getEndpoints platform ⟨body⟩ key = .ok eps := by
  obtain ⟨eps, hv4, hbody⟩ := hlists
  exact ⟨eps, hv4, getEndpoints_of_subscript hreads hv4 hbody⟩

theorem ListsEndpoints.ordered {body : Json} {key : String}
    (hlists : ListsEndpoints platform body key) :
    ListsEndpoints platform body.ordered key := by
  obtain ⟨eps, hv4, hbody⟩ := hlists
  refine ⟨eps, hv4, ?_⟩
  rw [Json.subscript_ordered, hbody, Except.map, Json.ordered_endpointTexts]

theorem ListsEndpoints.of_assign {fields : List (String × Json)} {key other : String}
    {value : Json} (hlists : ListsEndpoints platform (.object fields) key)
    (hne : key ≠ other) :
    ListsEndpoints platform (.object (assignField other value fields)) key := by
  obtain ⟨eps, hv4, hbody⟩ := hlists
  exact ⟨eps, hv4, (Json.subscript_assignField_of_ne hne value fields).trans hbody⟩

theorem listsEndpoints_assign {eps : List Endpoint} (hv4 : ∀ ep ∈ eps, ep.IsV4)
    (key : String) (fields : List (String × Json)) :
    ListsEndpoints platform
      (.object (assignField key (endpointTexts platform eps) fields)) key := by
  refine ⟨eps, hv4, ?_⟩
  rw [Json.subscript, lookupField_assignField_self]
  rfl

namespace Sound

variable {body : Json} {rpc : Rpc} {messageType : MessageType} {id : Uuid}

/-- What a node writes is well formed. -/
theorem wellFormed (hreads : platform.ReadsBack)
    (hsound : Sound platform body rpc messageType id) {msg : Message}
    (hpart : msg.getParam "kademlia" = some body) :
    WellFormed platform msg body rpc messageType id where
  part := hpart
  rpcNamed := hsound.rpcNamed
  rpcText := hsound.rpcText
  typeText := hsound.typeText
  observerId := getObserverId_of_subscript hreads hsound.observerId
  ignoreEps htype hrpc := by
    obtain ⟨eps, -, hget⟩ := getEndpoints_of_listsEndpoints hreads
      (hsound.ignoreEps htype hrpc)
    rw [getIgnoreEndpoint, hget]
    rfl
  findedEps htype hrpc := by
    obtain ⟨eps, -, hget⟩ := getEndpoints_of_listsEndpoints hreads
      (hsound.findedEps htype hrpc)
    rw [getFindedEndpoint, hget]
    rfl

theorem ordered (hsound : Sound platform body rpc messageType id) :
    Sound platform body.ordered rpc messageType id where
  encodable := (Json.everywhere_ordered Bson.documentNames_perm body).mpr hsound.encodable
  rpcNamed := hsound.rpcNamed
  rpcText := by
    rw [Json.constSubscript_ordered, hsound.rpcText, Except.map, Json.ordered_string]
  typeText := by
    rw [Json.constSubscript_ordered, hsound.typeText, Except.map, Json.ordered_string]
  observerId := by
    rw [Json.subscript_ordered, hsound.observerId, Except.map, Json.ordered_string]
  ignoreEps htype hrpc := (hsound.ignoreEps htype hrpc).ordered
  findedEps htype hrpc := (hsound.findedEps htype hrpc).ordered
  unanswered htype := by
    rw [Json.subscript_ordered, hsound.unanswered htype, Except.map, Json.ordered_null]

/-- A part tells its kind and its id. -/
theorem unique (hreads : platform.ReadsBack)
    (hsound : Sound platform body rpc messageType id) {otherRpc : Rpc}
    {otherType : MessageType} {otherId : Uuid}
    (hother : Sound platform body otherRpc otherType otherId) :
    rpc = otherRpc ∧ messageType = otherType ∧ id = otherId := by
  have hmsg := hsound.wellFormed hreads (Message.getParam_ofPart "kademlia" body)
  have hotherMsg := hother.wellFormed hreads (Message.getParam_ofPart "kademlia" body)
  refine ⟨?_, ?_, ?_⟩
  · exact Except.ok.inj (hmsg.getRpc_eq.symm.trans hotherMsg.getRpc_eq)
  · exact Except.ok.inj (hmsg.getMessageType_eq.symm.trans hotherMsg.getMessageType_eq)
  · exact Except.ok.inj (hmsg.observerId.symm.trans hotherMsg.observerId)

theorem exists_fields (hsound : Sound platform body rpc messageType id) :
    ∃ fields, body = .object fields := by
  have hrpc := hsound.rpcText
  cases body with
  | object fields => exact ⟨fields, rfl⟩
  | _ => cases hrpc

end Sound

/-! ## Requests -/

theorem sound_pingRequestBody (hshort : platform.ShortTexts) (id : Uuid) :
    Sound platform (pingRequestBody platform id) .ping .request id where
  encodable := by
    have hnames : Bson.DocumentNames ["type", "rpc", "observer_id"] := by decide
    refine .object _ hnames ?_
    simp only [List.forall_mem_cons, List.not_mem_nil, false_imp_iff, implies_true, and_true]
    exact ⟨Bson.encodable_string (by decide) (by decide),
      Bson.encodable_string (by decide) (by decide), Bson.ShortText.encodable (hshort.uuid id)⟩
  rpcNamed := by decide
  rpcText := by simp [pingRequestBody, Json.constSubscript, lookupField, Rpc.text]
  typeText := by simp [pingRequestBody, Json.constSubscript, lookupField, MessageType.text]
  observerId := by simp [pingRequestBody, Json.subscript, lookupField]
  ignoreEps := nofun
  findedEps := nofun
  unanswered _ := by simp [pingRequestBody, Json.subscript, lookupField]

theorem sound_findNodeRequestBody (hshort : platform.ShortTexts) (id : Uuid)
    {ignoreEps : List Endpoint} (hv4 : ∀ ep ∈ ignoreEps, ep.IsV4) :
    Sound platform (findNodeRequestBody platform id ignoreEps) .findNode .request id where
  encodable := by
    have hnames : Bson.DocumentNames ["type", "rpc", "observer_id", "ignore_eps"] := by decide
    refine .object _ hnames ?_
    simp only [List.forall_mem_cons, List.not_mem_nil, false_imp_iff, implies_true, and_true]
    exact ⟨Bson.encodable_string (by decide) (by decide),
      Bson.encodable_string (by decide) (by decide), Bson.ShortText.encodable (hshort.uuid id),
      encodable_endpointTexts hshort ignoreEps⟩
  rpcNamed := by decide
  rpcText := by simp [findNodeRequestBody, Json.constSubscript, lookupField, Rpc.text]
  typeText := by simp [findNodeRequestBody, Json.constSubscript, lookupField, MessageType.text]
  observerId := by simp [findNodeRequestBody, Json.subscript, lookupField]
  ignoreEps _ _ := ⟨ignoreEps, hv4, by simp [findNodeRequestBody, Json.subscript, lookupField]⟩
  findedEps := nofun
  unanswered _ := by simp [findNodeRequestBody, Json.subscript, lookupField]

/-! ## Replies -/

/-- A part that is marked as a response. -/
theorem sound_response {fields : List (String × Json)} {rpc : Rpc} {id : Uuid}
    (hencodable : Bson.Encodable (.object fields)) (hnamed : rpc ≠ .none)
    (hrpc : (Json.object fields).constSubscript "rpc" = .ok (.string rpc.text))
    (hid : (Json.object fields).subscript "observer_id" =
      .ok (.string (platform.uuidToString id)))
    (hanswer : rpc = .findNode → ListsEndpoints platform (.object fields) "finded_eps") :
    Sound platform (.object (assignField "type" (.string "response") fields)) rpc .response
      id where
  encodable := Bson.encodable_assignField hencodable (by decide)
    (Bson.encodable_string (by decide) (by decide))
  rpcNamed := hnamed
  rpcText := (Json.constSubscript_assignField_of_ne (by decide) _ _).trans hrpc
  typeText := Json.constSubscript_assignField_self _ _ _
  observerId := (Json.subscript_assignField_of_ne (by decide) _ _).trans hid
  ignoreEps := nofun
  findedEps _ hfind := (hanswer hfind).of_assign (by decide)
  unanswered := nofun

theorem Sound.pong {fields : List (String × Json)} {id : Uuid}
    (hsound : Sound platform (.object fields) .ping .request id) :
    Sound platform (.object (assignField "type" (.string "response") fields)) .ping .response
      id :=
  sound_response hsound.encodable hsound.rpcNamed hsound.rpcText hsound.observerId nofun

theorem Sound.found (hshort : platform.ShortTexts) {fields : List (String × Json)} {id : Uuid}
    (hsound : Sound platform (.object fields) .findNode .request id) {eps : List Endpoint}
    (hv4 : ∀ ep ∈ eps, ep.IsV4) :
    Sound platform (.object (assignField "type" (.string "response")
      (assignField "finded_eps" (endpointTexts platform eps) fields))) .findNode .response id :=
  sound_response
    (Bson.encodable_assignField hsound.encodable (by decide) (encodable_endpointTexts hshort eps))
    hsound.rpcNamed
    ((Json.constSubscript_assignField_of_ne (by decide) _ _).trans hsound.rpcText)
    ((Json.subscript_assignField_of_ne (by decide) _ _).trans hsound.observerId)
    fun _ => listsEndpoints_assign hv4 "finded_eps" fields

end KMessage

end SsP2p.Kademlia

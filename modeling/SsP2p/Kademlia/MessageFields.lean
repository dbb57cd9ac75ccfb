import SsP2p.Kademlia.FindNodeExchange

/-!
# The fields of a Kademlia message as registers

Every setter of a `k_message` assigns one key of its body, and every getter reads one, so
that a getter should return what was set last.  `set_message_type` assigns
`"response"` whatever it is told, and `get_rpc` takes everything that is not `"ping"` for
`find_node`, so that no message is ever discarded for its rpc.
-/

namespace SsP2p.Kademlia

inductive FieldSetter where
  | setRpc (r : KMessage.Rpc)
  | setMessageType (t : KMessage.MessageType)
  | setObserverId (id : Uuid)
  | setIgnoreEndpoint (eps : List Endpoint)
  | setFindedEndpoint (eps : List Endpoint)

namespace FieldSetter

variable (platform : Platform)

def apply (kMsg : KMessage) : FieldSetter → Except Fault KMessage
  | setRpc r => kMsg.setRpc r
  | setMessageType t => kMsg.setMessageType t
  | setObserverId id => kMsg.setObserverId platform id
  | setIgnoreEndpoint eps => kMsg.setIgnoreEndpoint platform eps
  | setFindedEndpoint eps => kMsg.setFindedEndpoint platform eps

def applyAll (kMsg : KMessage) (setters : List FieldSetter) : Except Fault KMessage :=
  setters.foldlM (apply platform) kMsg

def IsV4 : FieldSetter → Prop
  | setIgnoreEndpoint eps => ∀ ep ∈ eps, ep.IsV4
  | setFindedEndpoint eps => ∀ ep ∈ eps, ep.IsV4
  | _ => True

/-! ## What each setter sets -/

def rpc? : FieldSetter → Option KMessage.Rpc
  | setRpc r => some r
  | _ => none

def messageType? : FieldSetter → Option KMessage.MessageType
  | setMessageType t => some t
  | _ => none

def observerId? : FieldSetter → Option Uuid
  | setObserverId id => some id
  | _ => none

def ignoreEndpoint? : FieldSetter → Option (List Endpoint)
  | setIgnoreEndpoint eps => some eps
  | _ => none

def findedEndpoint? : FieldSetter → Option (List Endpoint)
  | setFindedEndpoint eps => some eps
  | _ => none

/-- What the last of the setters of one kind sets. -/
def lastSet {Value : Type} (set? : FieldSetter → Option Value) :
    List FieldSetter → Option Value
  | [] => none
  | setter :: setters => (lastSet set? setters).or (set? setter)

def assigned : FieldSetter → String × Json
  | setRpc r => ("rpc", .string (KMessage.Rpc.text r))
  | setMessageType _ => ("type", .string "response")
  | setObserverId id => ("observer_id", .string (platform.uuidToString id))
  | setIgnoreEndpoint eps => ("ignore_eps", endpointTexts platform eps)
  | setFindedEndpoint eps => ("finded_eps", endpointTexts platform eps)

def assignedAt (key : String) (setter : FieldSetter) : Option Json :=
  if (assigned platform setter).1 = key then some (assigned platform setter).2 else none

variable {platform}

theorem lookupField_assignField (key name : String) (value : Json)
    (fields : List (String × Json)) :
    lookupField key (assignField name value fields) =
      (if name = key then some value else none).or (lookupField key fields) := by
  by_cases hname : name = key
  · rw [if_pos hname, hname, lookupField_assignField_self]
    rfl
  · rw [if_neg hname, lookupField_assignField_of_ne (Ne.symm hname)]
    rfl

/-- A setter assigns its field and leaves the others as they are. -/
theorem exists_apply (platform : Platform) (fields : List (String × Json)) (setter : FieldSetter) :
    ∃ after, setter.apply platform ⟨.object fields⟩ = .ok ⟨.object after⟩ ∧
      ∀ key, lookupField key after =
        (setter.assignedAt platform key).or (lookupField key fields) := by
  cases setter with
  | setRpc r =>
      refine ⟨assignField "rpc" (.string (KMessage.Rpc.text r)) fields, ?_, fun key =>
        lookupField_assignField key "rpc" _ fields⟩
      cases r <;> rfl
  | setMessageType t =>
      cases t with
      | response => exact ⟨_, rfl, fun key => lookupField_assignField key "type" _ fields⟩
      | request =>
          refine ⟨_, rfl, fun key => ?_⟩
          have hassigned : (setMessageType .request).assignedAt platform key =
              if "type" = key then some (.string "response") else none := rfl
          rw [lookupField_assignField, lookupField_assignField, ← Option.or_assoc, hassigned]
          by_cases hkey : "type" = key
          · rw [if_pos hkey, if_pos hkey]
            rfl
          · rw [if_neg hkey, if_neg hkey]
            rfl
  | setObserverId id =>
      exact ⟨_, rfl, fun key => lookupField_assignField key "observer_id" _ fields⟩
  | setIgnoreEndpoint eps =>
      exact ⟨_, rfl, fun key => lookupField_assignField key "ignore_eps" _ fields⟩
  | setFindedEndpoint eps =>
      exact ⟨_, rfl, fun key => lookupField_assignField key "finded_eps" _ fields⟩

/-- After a sequence of setters a field has what was assigned last. -/
theorem exists_applyAll (platform : Platform) (fields : List (String × Json))
    (setters : List FieldSetter) :
    ∃ after, applyAll platform ⟨.object fields⟩ setters = .ok ⟨.object after⟩ ∧
      ∀ key, lookupField key after =
        (lastSet (assignedAt platform key) setters).or (lookupField key fields) := by
  induction setters generalizing fields with
  | nil => exact ⟨fields, rfl, fun key => rfl⟩
  | cons setter setters ih =>
      obtain ⟨middle, hmiddle, hlookupMiddle⟩ := exists_apply platform fields setter
      obtain ⟨after, hafter, hlookup⟩ := ih middle
      refine ⟨after, ?_, fun key => ?_⟩
      · rw [applyAll, List.foldlM_cons, hmiddle]
        exact hafter
      · rw [hlookup, hlookupMiddle, lastSet, Option.or_assoc]

/-- Setters that set the same values in another form. -/
theorem lastSet_map {Value Other : Type} {set? : FieldSetter → Option Value}
    {other? : FieldSetter → Option Other} {encode : Value → Other}
    (hmap : ∀ setter, other? setter = (set? setter).map encode) (setters : List FieldSetter) :
    lastSet other? setters = (lastSet set? setters).map encode := by
  induction setters with
  | nil => rfl
  | cons setter setters ih =>
      rw [lastSet, lastSet, ih, hmap, Option.map_or]

theorem exists_of_lastSet {Value : Type} {set? : FieldSetter → Option Value}
    {setters : List FieldSetter} {value : Value} (hlast : lastSet set? setters = some value) :
    ∃ setter ∈ setters, set? setter = some value := by
  induction setters with
  | nil => cases hlast
  | cons setter setters ih =>
      rcases Option.or_eq_some_iff.mp hlast with hlater | ⟨-, hfirst⟩
      · obtain ⟨later, hmem, hset⟩ := ih hlater
        exact ⟨later, List.mem_cons_of_mem setter hmem, hset⟩
      · exact ⟨setter, List.mem_cons_self, hfirst⟩

end FieldSetter

namespace KMessage

/-- A getter returns what was set last, or what it returned before anything was set. -/
def Keeps {Value : Type} (get : KMessage → Except Fault Value) (before after : KMessage)
    (last : Option Value) : Prop :=
  get after = last.elim (get before) .ok

/-- The rpc of the body is `"ping"` or `"find_node"`. -/
def NamesRpc (kMsg : KMessage) : Prop :=
  kMsg.body.constSubscript "rpc" = .ok (.string "ping") ∨
    kMsg.body.constSubscript "rpc" = .ok (.string "find_node")

/-- What is asked of a message after some setters: the five fields are independent
registers, and without a known rpc the message is reported as `none` and discarded. -/
structure FieldsKept (platform : Platform) (before after : KMessage)
    (setters : List FieldSetter) : Prop where
  rpc : Keeps getRpc before after (FieldSetter.lastSet FieldSetter.rpc? setters)
  messageType : Keeps getMessageType before after
    (FieldSetter.lastSet FieldSetter.messageType? setters)
  observerId : Keeps (getObserverId platform) before after
    (FieldSetter.lastSet FieldSetter.observerId? setters)
  ignoreEndpoint : Keeps (getIgnoreEndpoint platform) before after
    (FieldSetter.lastSet FieldSetter.ignoreEndpoint? setters)
  findedEndpoint : Keeps (getFindedEndpoint platform) before after
    (FieldSetter.lastSet FieldSetter.findedEndpoint? setters)
  discarded : ¬ after.NamesRpc → after.getRpc = .ok .none ∧ ∀ table io ep,
    RpcManager.incomeRequest platform table io after ep = .ok (table, io)

/-- The setters return, on a body that is an object, and what they leave is as asked. -/
def SetsFields (platform : Platform) (fields : List (String × Json))
    (setters : List FieldSetter) : Prop :=
  ∃ after, FieldSetter.applyAll platform ⟨.object fields⟩ setters = .ok after ∧
    FieldsKept platform ⟨.object fields⟩ after setters

variable {platform : Platform}

/-- A getter that reads one key returns what was set last, if it reads that value back. -/
theorem keeps_of_lookup {Value : Type} {get : KMessage → Except Fault Value} {key : String}
    {set? : FieldSetter → Option Value} {encode : Value → Json}
    (hassigned : ∀ setter : FieldSetter,
      setter.assignedAt platform key = (set? setter).map encode)
    (hget : ∀ fields other : List (String × Json),
      lookupField key fields = lookupField key other →
        get ⟨.object fields⟩ = get ⟨.object other⟩)
    {fields after : List (String × Json)} {setters : List FieldSetter}
    (hlookup : lookupField key after =
      (FieldSetter.lastSet (FieldSetter.assignedAt platform key) setters).or
        (lookupField key fields))
    (hread : ∀ value, FieldSetter.lastSet set? setters = some value →
      lookupField key after = some (encode value) → get ⟨.object after⟩ = .ok value) :
    Keeps get ⟨.object fields⟩ ⟨.object after⟩ (FieldSetter.lastSet set? setters) := by
  rw [FieldSetter.lastSet_map hassigned] at hlookup
  cases hlast : FieldSetter.lastSet set? setters with
  | none =>
      rw [hlast] at hlookup
      exact hget after fields hlookup
  | some value =>
      rw [hlast] at hlookup
      exact hread value hlast hlookup

/-- `none` is told by its text, and taken for `find_node`. -/
theorem getRpc_of_text {fields : List (String × Json)} {r : Rpc}
    (hrpc : lookupField "rpc" fields = some (.string r.text)) :
    getRpc ⟨.object fields⟩ = .ok (if r = .ping then .ping else .findNode) := by
  simp only [getRpc, Json.constSubscript, hrpc, Fallible.ok_bind]
  cases r <;> rfl

theorem namesRpc_object_iff {fields : List (String × Json)} :
    NamesRpc ⟨.object fields⟩ ↔ lookupField "rpc" fields = some (.string "ping") ∨
      lookupField "rpc" fields = some (.string "find_node") := by
  rw [NamesRpc]
  cases hrpc : lookupField "rpc" fields with
  | none => simp [Json.constSubscript, hrpc]
  | some value => simp [Json.constSubscript, hrpc]

theorem assignedAt_rpc (setter : FieldSetter) :
    setter.assignedAt platform "rpc" = setter.rpc?.map fun r => .string r.text := by
  cases setter <;> rfl

section Kept

variable {fields after : List (String × Json)} {setters : List FieldSetter}
  (hlookup : ∀ key, lookupField key after =
    (FieldSetter.lastSet (FieldSetter.assignedAt platform key) setters).or
      (lookupField key fields))

include hlookup

/-- The rpc is a register but for the value `none`. -/
theorem keeps_getRpc_iff :
    Keeps getRpc ⟨.object fields⟩ ⟨.object after⟩ (FieldSetter.lastSet FieldSetter.rpc? setters) ↔
      FieldSetter.lastSet FieldSetter.rpc? setters ≠ some .none := by
  constructor
  · intro hkeeps hnone
    rw [Keeps, hnone] at hkeeps
    exact getRpc_ne_none _ hkeeps
  · intro hnamed
    apply keeps_of_lookup assignedAt_rpc _ (hlookup "rpc")
    · intro r hlast hrpc
      rw [getRpc_of_text hrpc]
      cases r with
      | ping => rfl
      | findNode => rfl
      | none => exact absurd hlast hnamed
    · intro left right heq
      simp only [getRpc, Json.constSubscript, heq]

/-- The type is a register but for the value `request`. -/
theorem keeps_getMessageType_iff :
    Keeps getMessageType ⟨.object fields⟩ ⟨.object after⟩
        (FieldSetter.lastSet FieldSetter.messageType? setters) ↔
      FieldSetter.lastSet FieldSetter.messageType? setters ≠ some .request := by
  have hassigned : ∀ setter : FieldSetter, setter.assignedAt platform "type" =
      setter.messageType?.map fun _ => .string "response" := by
    intro setter
    cases setter <;> rfl
  have hread : ∀ t, FieldSetter.lastSet FieldSetter.messageType? setters = some t →
      getMessageType ⟨.object after⟩ = .ok .response := by
    intro t hlast
    have htype := hlookup "type"
    rw [FieldSetter.lastSet_map hassigned, hlast] at htype
    simp only [Option.map_some, Option.some_or] at htype
    simp only [getMessageType, Json.constSubscript, htype]
    rfl
  constructor
  · intro hkeeps hrequest
    rw [Keeps, hrequest, hread .request hrequest] at hkeeps
    cases hkeeps
  · intro hresponse
    apply keeps_of_lookup hassigned _ (hlookup "type")
    · intro t hlast _
      rw [hread t hlast]
      cases t with
      | response => rfl
      | request => exact absurd hlast hresponse
    · intro left right heq
      simp only [getMessageType, Json.constSubscript, heq]

theorem keeps_getObserverId (hreads : platform.ReadsBack) :
    Keeps (getObserverId platform) ⟨.object fields⟩ ⟨.object after⟩
      (FieldSetter.lastSet FieldSetter.observerId? setters) := by
  have hassigned : ∀ setter : FieldSetter, setter.assignedAt platform "observer_id" =
      setter.observerId?.map fun id => .string (platform.uuidToString id) := by
    intro setter
    cases setter <;> rfl
  apply keeps_of_lookup hassigned _ (hlookup "observer_id")
  · intro id _ hid
    apply getObserverId_of_subscript hreads
    rw [Json.subscript, hid]
    rfl
  · intro left right heq
    simp only [getObserverId, Json.subscript, heq]

/-- A list of IPv4 endpoints that is set under a key is a register. -/
theorem keeps_getEndpoints (hreads : platform.ReadsBack) {key : String}
    {set? : FieldSetter → Option (List Endpoint)}
    (hassigned : ∀ setter : FieldSetter,
      setter.assignedAt platform key = (set? setter).map (endpointTexts platform))
    (hv4 : ∀ setter ∈ setters, ∀ eps, set? setter = some eps → ∀ ep ∈ eps, ep.IsV4) :
    Keeps (fun kMsg => kMsg.getEndpoints platform key) ⟨.object fields⟩ ⟨.object after⟩
      (FieldSetter.lastSet set? setters) := by
  apply keeps_of_lookup hassigned _ (hlookup key)
  · intro eps hlast heps
    obtain ⟨setter, hmem, hset⟩ := FieldSetter.exists_of_lastSet hlast
    apply getEndpoints_of_subscript hreads (hv4 setter hmem eps hset)
    rw [Json.subscript, heps]
    rfl
  · intro left right heq
    simp only [getEndpoints, Json.subscript, heq]

theorem keeps_getIgnoreEndpoint (hreads : platform.ReadsBack)
    (hv4 : ∀ setter ∈ setters, setter.IsV4) :
    Keeps (getIgnoreEndpoint platform) ⟨.object fields⟩ ⟨.object after⟩
      (FieldSetter.lastSet FieldSetter.ignoreEndpoint? setters) := by
  apply keeps_getEndpoints hlookup hreads
  · intro setter
    cases setter <;> rfl
  · intro setter hmem eps hset
    cases setter with
    | setIgnoreEndpoint other =>
        cases hset
        exact hv4 _ hmem
    | _ => cases hset

theorem keeps_getFindedEndpoint (hreads : platform.ReadsBack)
    (hv4 : ∀ setter ∈ setters, setter.IsV4) :
    Keeps (getFindedEndpoint platform) ⟨.object fields⟩ ⟨.object after⟩
      (FieldSetter.lastSet FieldSetter.findedEndpoint? setters) := by
  apply keeps_getEndpoints hlookup hreads
  · intro setter
    cases setter <;> rfl
  · intro setter hmem eps hset
    cases setter with
    | setFindedEndpoint other =>
        cases hset
        exact hv4 _ hmem
    | _ => cases hset

/-- The rpc of the body is a known one if the one that was set last is, or if none was set
and it was one before. -/
theorem namesRpc_iff :
    NamesRpc ⟨.object after⟩ ↔ FieldSetter.lastSet FieldSetter.rpc? setters ≠ some .none ∧
      (FieldSetter.lastSet FieldSetter.rpc? setters = none → NamesRpc ⟨.object fields⟩) := by
  have hrpc := hlookup "rpc"
  rw [FieldSetter.lastSet_map assignedAt_rpc] at hrpc
  rw [namesRpc_object_iff, namesRpc_object_iff, hrpc]
  cases FieldSetter.lastSet FieldSetter.rpc? setters with
  | none => simp
  | some r =>
      cases r with
      | ping => simp [Rpc.text]
      | findNode => simp [Rpc.text]
      | none => simp [Rpc.text]

end Kept

/-- The fields are independent registers exactly when `request` is not the type and `none`
not the rpc that was set last, and the rpc is set or was a known one. -/
theorem setsFields_iff (hreads : platform.ReadsBack) (fields : List (String × Json))
    {setters : List FieldSetter} (hv4 : ∀ setter ∈ setters, setter.IsV4) :
    SetsFields platform fields setters ↔
      FieldSetter.lastSet FieldSetter.messageType? setters ≠ some .request ∧
        FieldSetter.lastSet FieldSetter.rpc? setters ≠ some .none ∧
        (FieldSetter.lastSet FieldSetter.rpc? setters = none → NamesRpc ⟨.object fields⟩) := by
  obtain ⟨after, hafter, hlookup⟩ :=
    FieldSetter.exists_applyAll platform fields setters
  have hsets : SetsFields platform fields setters ↔
      FieldsKept platform ⟨.object fields⟩ ⟨.object after⟩ setters := by
    rw [SetsFields, hafter]
    constructor
    · rintro ⟨other, heq, hkept⟩
      rwa [Except.ok.inj heq]
    · exact fun hkept => ⟨_, rfl, hkept⟩
  rw [hsets]
  constructor
  · intro hkept
    refine ⟨(keeps_getMessageType_iff hlookup).mp hkept.messageType,
      (namesRpc_iff hlookup).mp ?_⟩
    by_contra hunknown
    exact getRpc_ne_none _ (hkept.discarded hunknown).1
  · rintro ⟨htype, hrpc⟩
    exact {
      rpc := (keeps_getRpc_iff hlookup).mpr hrpc.1
      messageType := (keeps_getMessageType_iff hlookup).mpr htype
      observerId := keeps_getObserverId hlookup hreads
      ignoreEndpoint := keeps_getIgnoreEndpoint hlookup hreads hv4
      findedEndpoint := keeps_getFindedEndpoint hlookup hreads hv4
      discarded := fun hunknown => absurd ((namesRpc_iff hlookup).mpr hrpc) hunknown }

/-- The fields of a response with a list of nodes. -/
theorem setsFields_response :
    SetsFields (hostPlatform []) [("type", .string "request"), ("rpc", .object [])]
      [.setMessageType .response, .setRpc .ping, .setObserverId 7, .setRpc .findNode,
        .setFindedEndpoint [nodeAt 1, nodeAt 2]] :=
  (setsFields_iff (readsBack_hostPlatform []) _ (by
    simp only [List.forall_mem_cons, List.not_mem_nil, false_implies, implies_true, and_true]
    exact ⟨trivial, trivial, trivial, trivial, by
      simp only [FieldSetter.IsV4, List.forall_mem_cons, List.not_mem_nil, false_implies,
        implies_true, and_true]
      exact ⟨⟨_, rfl⟩, ⟨_, rfl⟩⟩⟩)).mpr ⟨by decide, by decide, by
    intro hnever
    cases hnever⟩

/-- `set_message_type` with `request` makes a response, and a message with another rpc is
taken for `find_node`. -/
theorem not_setsFields_request :
    ¬ SetsFields (hostPlatform []) [("rpc", .string "ping")] [.setMessageType .request] ∧
      getRpc ⟨.object [("rpc", .string "store")]⟩ = .ok .findNode ∧
      ¬ SetsFields (hostPlatform []) [("rpc", .string "store")] [] := by
  refine ⟨?_, rfl, ?_⟩
  · rintro ⟨after, hafter, hkept⟩
    obtain rfl := Except.ok.inj hafter
    cases hkept.messageType
  · rintro ⟨after, hafter, hkept⟩
    obtain rfl := Except.ok.inj hafter
    have hunknown : ¬ NamesRpc ⟨.object [("rpc", .string "store")]⟩ := by
      rw [namesRpc_object_iff]
      simp [lookupField]
    exact getRpc_ne_none _ (hkept.discarded hunknown).1

end KMessage

end SsP2p.Kademlia

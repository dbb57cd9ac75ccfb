import SsP2p.Ice.BindingOutcome
import SsP2p.Ice.ElectedEndpoint
import SsP2p.Net.NodeGrowth

/-!
# What a node puts on the wire

A node that is given IPv4 endpoints, texts that can be encoded and the messages of other
nodes sends messages of four kinds only.  Each can be encoded and is handled by any other
node.
-/

namespace SsP2p

theorem Message.getParam_ofPart_of_ne {param other : String} (hne : other ≠ param)
    (happ : other ≠ "app_id") (payload : Json) :
    (ofPart param payload).getParam other = none := by
  rw [ofPart, setParam, getParam, lookupField_assignField_of_ne hne]
  simp [lookupField, Ne.symm happ]

namespace Net

open Ice Kademlia

namespace NodeLoop

/-- What the ICE agent is given to send: the requests of the Kademlia layer and the texts of
the application. -/
def Carried (requests : List Outgoing) (given : List (Endpoint × String)) (ep : Endpoint)
    (param : String) (payload : Json) : Prop :=
  (param = "kademlia" ∧ ⟨ep, .ofPart param payload⟩ ∈ requests) ∨
    (param = "messenger" ∧ ∃ text, payload = .string text ∧ (ep, text) ∈ given)

theorem Carried.mono {requests more : List Outgoing} {given others : List (Endpoint × String)}
    (hrequests : requests ⊆ more) (hgiven : given ⊆ others) {ep : Endpoint} {param : String}
    {payload : Json} (hcarried : Carried requests given ep param payload) :
    Carried more others ep param payload := by
  rcases hcarried with ⟨hparam, hsent⟩ | ⟨hparam, text, htext, hgave⟩
  · exact Or.inl ⟨hparam, hrequests hsent⟩
  · exact Or.inr ⟨hparam, text, htext, hgiven hgave⟩

variable {platform : Platform} {Named : Endpoint → Prop}

variable (platform) in
/-- The ICE agent, which is told these endpoints only, is as it should be when it is given
these requests and texts. -/
structure SoundIce (Named : Endpoint → Prop) (requests : List Outgoing)
    (given : List (Endpoint × String)) (ice : IceLoop) : Prop where
  proper : ice.Proper platform (Carried requests given) Named
  elects : ice.Elects Named
  settled : ∀ id, ice.SettledAt id

/-- The invariant of a node that is told these endpoints only: both layers are as they should
be and see one routing table, and the application was held to what can be sent. -/
structure Proper (Named : Endpoint → Prop) (node : NodeLoop platform) : Prop where
  dht : node.dht.Proper platform
  sourced : node.dht.Sourced platform
  ice : SoundIce platform Named node.dht.loop.io.sent node.given node.ice
  table : node.ice.table = node.dht.loop.table
  answers : node.answers ⊆ node.dht.loop.io.sent
  given : ∀ entry ∈ node.given, Bson.Encodable (.string entry.2)
  peers : ∀ peer ∈ node.peers, peer.ep.IsV4
  before : ∀ arrival ∈ node.dht.arrivals, arrival.sentBefore ⊆ node.dht.loop.io.sent

/-- What the application may do: its endpoints are IPv4 endpoints, it tells the node one of
these for its own, and its texts can be encoded. -/
def Admits (Named : Endpoint → Prop) : Event → Prop
  | .updateGlobalSelfEndpoint ep => Named ep
  | .autoUpdate ep => ep.IsV4
  | .autoUpdateBatch eps => ∀ ep ∈ eps, ep.IsV4
  | .getPeer ep => ep.IsV4
  | .send _ text _ => Bson.Encodable (.string text)
  | _ => True

theorem proper_make (hv4 : ∀ ep, Named ep → ep.IsV4) {ep : Endpoint} (hown : Named ep)
    (now : ℕ) : (make platform ep now).Proper Named where
  dht := MaintainedDht.proper_make ep now
  sourced := MaintainedDht.sourced_make ep now
  ice := {
    proper := IceLoop.proper_start hv4 hown
      (fun known hknows => absurd hknows (KRoutingTable.not_knows_empty _ known)) now
    elects := IceLoop.elects_start ep _ now
    settled := IceLoop.settledAt_start ep _ now }
  table := rfl
  answers := List.nil_subset _
  given := nofun
  peers := nofun
  before := nofun

/-! ## The two layers -/

theorem SoundIce.mono {requests more : List Outgoing} {given others : List (Endpoint × String)}
    {ice : IceLoop} (hice : SoundIce platform Named requests given ice)
    (hrequests : requests ⊆ more) (hgiven : given ⊆ others) :
    SoundIce platform Named more others ice where
  proper := hice.proper.mono fun _ _ _ hcarried => Carried.mono hrequests hgiven hcarried
  elects := hice.elects
  settled := hice.settled

theorem SoundIce.step (hreads : platform.ReadsBack) (hshort : platform.ShortTexts)
    {requests : List Outgoing} {given : List (Endpoint × String)} {ice next : IceLoop}
    {event : IceLoop.Event} (hice : SoundIce platform Named requests given ice)
    (hstep : ice.step platform event = some next)
    (hadmits : IceLoop.Admits platform (Carried requests given) Named event) :
    SoundIce platform Named requests given next where
  proper := IceLoop.proper_step hreads hshort hice.proper hadmits hstep
  elects := hice.proper.elects_step hadmits hice.elects hstep
  settled := IceLoop.settledAt_step hstep hice.settled

/-- A request of the Kademlia layer goes out as it is. -/
theorem SoundIce.signal (hreads : platform.ReadsBack) (hshort : platform.ShortTexts)
    {dht : MaintainedDht} {given : List (Endpoint × String)} {id : Uuid} {request : Outgoing}
    {ice next : IceLoop} (hdht : dht.Proper platform) (hrequest : request ∈ dht.loop.io.sent)
    (hice : SoundIce platform Named dht.loop.io.sent given ice)
    (hsignal : NodeLoop.signal platform id request ice = some next) :
    SoundIce platform Named dht.loop.io.sent given next := by
  obtain ⟨hv4, body, rpc, messageType, requestId, hmsg, -⟩ :=
    (hdht.sent request hrequest).exists_sound hshort
  obtain ⟨payload, hpayload, hstep⟩ := Option.bind_eq_some_iff.mp hsignal
  rw [hmsg, Message.getParam_ofPart, Option.some.injEq] at hpayload
  have hcarried : Carried dht.loop.io.sent given request.dest "kademlia" payload := by
    refine Or.inl ⟨rfl, ?_⟩
    rw [← hpayload, ← hmsg]
    exact hrequest
  exact hice.step hreads hshort hstep ⟨hv4, hcarried⟩

/-- The ICE agent goes on with the table of the Kademlia layer. -/
theorem SoundIce.withTable (hreads : platform.ReadsBack) (hshort : platform.ShortTexts)
    {ice : IceLoop} {dht : MaintainedDht} {requests : List Outgoing}
    {given : List (Endpoint × String)} (hice : SoundIce platform Named requests given ice)
    (hsent : requests ⊆ dht.loop.io.sent) (hdht : dht.Proper platform) :
    SoundIce platform Named dht.loop.io.sent given { ice with table := dht.loop.table } := by
  have hset : ice.step platform (.setTable dht.loop.table) =
    some { ice with table := dht.loop.table } := rfl
  exact (hice.mono hsent (List.Subset.refl _)).step hreads hshort hset hdht.known

theorem table_signal {id : Uuid} {request : Outgoing} {ice next : IceLoop}
    (hsignal : signal platform id request ice = some next) : next.table = ice.table := by
  obtain ⟨payload, -, hstep⟩ := Option.bind_eq_some_iff.mp hsignal
  exact IceLoop.table_step hstep

theorem Proper.kademlia (hreads : platform.ReadsBack) (hshort : platform.ShortTexts)
    {node next : NodeLoop platform} {event : MaintainedDht.Event} {drawn : List Uuid}
    (hproper : node.Proper Named) (hstep : node.kademlia event drawn = some next)
    (hadmits : MaintainedDht.Admits platform event)
    (harrivals : node.dht.arrivalsOf event = []) : next.Proper Named := by
  obtain ⟨dht, ice, rest, hdht, heach, rfl⟩ := kademlia_eq_some hstep
  have hnext := MaintainedDht.proper_step hreads hshort hproper.dht hadmits hdht
  have hextends := MaintainedDht.extends_step hdht
  have hsent : node.dht.loop.io.sent ⊆ dht.loop.io.sent := hextends.loop.sent.subset
  exact {
    dht := hnext
    sourced := MaintainedDht.sourced_step hproper.sourced hdht
    ice := Supply.invariant_of_forEach
      (SoundIce platform Named dht.loop.io.sent node.given)
      (fun _ request hrequest _ _ hice hsignal =>
        hice.signal hreads hshort hnext (List.mem_of_mem_drop hrequest) hsignal)
      (hproper.ice.withTable hreads hshort hsent hnext) heach
    table := Supply.invariant_of_forEach
      (fun ice : IceLoop => ice.table = dht.loop.table)
      (fun _ _ _ _ _ htable hsignal => (table_signal hsignal).trans htable) rfl heach
    answers := List.Subset.trans hproper.answers hsent
    given := hproper.given
    peers := hproper.peers
    before := by
      have hsame : dht.arrivals = node.dht.arrivals := by
        rw [hextends.arrivals, harrivals, List.append_nil]
      intro arrival harrival
      rw [hsame] at harrival
      exact List.Subset.trans (hproper.before arrival harrival) hsent }

theorem Proper.iceAgent (hreads : platform.ReadsBack) (hshort : platform.ShortTexts)
    {node next : NodeLoop platform} {event : IceLoop.Event} (hproper : node.Proper Named)
    (hstep : node.iceAgent event = some next)
    (hadmits : IceLoop.Admits platform (Carried node.dht.loop.io.sent node.given) Named
      event)
    (htable : node.ice.tableAfter event = node.ice.table) : next.Proper Named := by
  obtain ⟨ice, hice, rfl⟩ := iceAgent_eq_some hstep
  exact { hproper with
    ice := hproper.ice.step hreads hshort hice hadmits
    table := (IceLoop.table_step hice).trans (htable.trans hproper.table) }

/-! ## Events -/

theorem Proper.runIce (hreads : platform.ReadsBack) (hshort : platform.ShortTexts)
    {node next : NodeLoop platform} {position : ℕ} (hproper : node.Proper Named)
    (hrun : node.runIce position = some next) : next.Proper Named := by
  obtain ⟨taken, htake, hrun⟩ := Option.bind_eq_some_iff.mp hrun
  obtain ⟨middle, hmiddle, hrun⟩ := Option.bind_eq_some_iff.mp hrun
  have hfirst := hproper.iceAgent hreads hshort hmiddle trivial rfl
  split at hrun
  · exact hfirst.kademlia hreads hshort hrun trivial rfl
  · obtain rfl := Option.some.inj hrun
    exact hfirst

theorem Proper.serve (hreads : platform.ReadsBack) (hshort : platform.ShortTexts)
    {node next : NodeLoop platform} {event : LoopEvent} (hproper : node.Proper Named)
    (hserve : node.serve event = some next) : next.Proper Named := by
  cases event with
  | expireDht position => exact hproper.kademlia hreads hshort hserve trivial rfl
  | runDht position id drawn => exact hproper.kademlia hreads hshort hserve trivial rfl
  | expireMaintainer position => exact hproper.kademlia hreads hshort hserve trivial rfl
  | runMaintainer position ids drawn =>
      exact hproper.kademlia hreads hshort hserve trivial rfl
  | expireIce position => exact hproper.iceAgent hreads hshort hserve trivial rfl
  | runIce position => exact hproper.runIce hreads hshort hserve
  | refreshIce => exact hproper.iceAgent hreads hshort hserve trivial rfl
  | refreshPool =>
      obtain rfl := Option.some.inj hserve
      exact { hproper with }
  | tick id => exact hproper.iceAgent hreads hshort hserve trivial rfl

theorem Proper.send (hreads : platform.ReadsBack) (hshort : platform.ShortTexts)
    {node next : NodeLoop platform} {ep : Endpoint} {text : String} {id : Uuid}
    (hproper : node.Proper Named) (hv4 : ep.IsV4) (htext : Bson.Encodable (.string text))
    (hsend : node.send ep text id = some next) : next.Proper Named := by
  have hnoted : ({ node with given := node.given ++ [(ep, text)] } :
      NodeLoop platform).Proper Named := {
    hproper with
    ice := hproper.ice.mono (List.Subset.refl _) (List.subset_append_left _ _)
    given := by
      intro entry hentry
      cases List.mem_append.mp hentry with
      | inl hold => exact hproper.given entry hold
      | inr hnew =>
          rw [List.mem_singleton.mp hnew]
          exact htext }
  have hgave : (ep, text) ∈ node.given ++ [(ep, text)] :=
    List.mem_append_right _ (List.mem_singleton_self _)
  exact hnoted.iceAgent hreads hshort hsend ⟨hv4, Or.inr ⟨rfl, text, rfl, hgave⟩⟩ rfl

theorem Proper.receive {node next : NodeLoop platform} {position : ℕ} {peer : Peer}
    {timeout : ℤ} (hproper : node.Proper Named) (hpeer : peer.ep.IsV4)
    (hreceive : node.receive position peer timeout = some next) : next.Proper Named := by
  have hep := peer.ep_receive timeout
  rw [NodeLoop.receive] at hreceive
  split at hreceive
  next received msg after hafter =>
    obtain rfl := Option.some.inj hreceive
    refine { hproper with peers := fun other hother => ?_ }
    rcases List.mem_or_eq_of_mem_set hother with hold | rfl
    · exact hproper.peers other hold
    · rw [hafter] at hep
      rw [hep]
      exact hpeer
  next => cases hreceive

theorem Proper.step (hreads : platform.ReadsBack) (hshort : platform.ShortTexts)
    {node next : NodeLoop platform} {event : Event} (hproper : node.Proper Named)
    (hadmits : Admits Named event) (hstep : node.step event = some next) : next.Proper Named := by
  obtain ⟨-, hact⟩ := act_of_step hstep
  cases event with
  | start bootEps ids drawn id =>
      obtain ⟨middle, hmiddle, hbinding⟩ := Option.bind_eq_some_iff.mp hact
      have hstarted : node.startServer.Proper Named := { hproper with }
      exact (hstarted.kademlia hreads hshort hmiddle trivial rfl).iceAgent hreads hshort
        hbinding trivial rfl
  | stop =>
      obtain rfl := Option.some.inj hact
      exact { hproper with
        dht := hproper.dht.of_eq rfl (List.Subset.refl _)
        sourced := hproper.sourced.of_eq rfl rfl rfl }
  | syncGetGlobalAddress bootEps id => exact hproper.iceAgent hreads hshort hact trivial rfl
  | updateGlobalSelfEndpoint ep =>
      obtain ⟨middle, hmiddle, hkademlia⟩ := updateGlobalSelfEndpoint_eq_some hact
      exact (hproper.iceAgent hreads hshort hmiddle hadmits rfl).kademlia hreads hshort hkademlia
        trivial rfl
  | autoUpdate ep => exact hproper.kademlia hreads hshort hact hadmits rfl
  | autoUpdateBatch eps => exact hproper.kademlia hreads hshort hact hadmits rfl
  | hubStart =>
      obtain rfl := Option.some.inj hact
      exact { hproper with }
  | hubStop =>
      obtain rfl := Option.some.inj hact
      exact { hproper with }
  | getPeer ep =>
      obtain rfl := Option.some.inj hact
      refine { hproper with peers := fun peer hpeer => ?_ }
      cases List.mem_append.mp hpeer with
      | inl hold => exact hproper.peers peer hold
      | inr hnew =>
          rw [List.mem_singleton.mp hnew]
          exact hadmits
  | send position text id =>
      obtain ⟨peer, hpeer, hsend⟩ := Option.bind_eq_some_iff.mp hact
      exact hproper.send hreads hshort (hproper.peers peer (List.mem_of_getElem? hpeer)) hadmits
        hsend
  | receive position timeout =>
      obtain ⟨peer, hpeer, hreceive⟩ := Option.bind_eq_some_iff.mp hact
      exact hproper.receive (hproper.peers peer (List.mem_of_getElem? hpeer)) hreceive
  | advance seconds =>
      obtain ⟨middle, hmiddle, hadvance⟩ := Option.bind_eq_some_iff.mp hact
      exact (hproper.kademlia hreads hshort hmiddle trivial rfl).iceAgent hreads hshort
        hadvance trivial rfl
  | serve event =>
      rw [act] at hact
      split_ifs at hact
      exact hproper.serve hreads hshort hact

/-! ## The arrival of a message -/

theorem Proper.incomeKademlia (hreads : platform.ReadsBack) (hshort : platform.ShortTexts)
    {node : NodeLoop platform} {msg : Message} {ep : Endpoint} (hproper : node.Proper Named)
    (hv4 : ep.IsV4) (hsound : KMessage.SoundPart platform msg) :
    (node.incomeKademlia msg ep).Proper Named := by
  obtain ⟨dht, hdht, hincome⟩ := node.exists_incomeKademlia msg ep
  have hadmits : MaintainedDht.Admits platform (.receive msg ep) := ⟨hv4, hsound⟩
  have hnext := MaintainedDht.proper_step hreads hshort hproper.dht hadmits hdht
  have hextends := MaintainedDht.extends_step hdht
  have hsent : node.dht.loop.io.sent ⊆ dht.loop.io.sent := hextends.loop.sent.subset
  rw [hincome]
  exact {
    dht := hnext
    sourced := MaintainedDht.sourced_step hproper.sourced hdht
    ice := hproper.ice.withTable hreads hshort hsent hnext
    table := rfl
    answers := by
      intro out hout
      cases List.mem_append.mp hout with
      | inl hold => exact hsent (hproper.answers hold)
      | inr hnew => exact List.mem_of_mem_drop hnew
    given := hproper.given
    peers := hproper.peers
    before := by
      intro arrival harrival
      rw [hextends.arrivals] at harrival
      cases List.mem_append.mp harrival with
      | inl hold => exact List.Subset.trans (hproper.before arrival hold) hsent
      | inr hnew =>
          rw [List.mem_singleton.mp hnew]
          exact hsent }

theorem Proper.incomeIceAgent (hreads : platform.ReadsBack) (hshort : platform.ShortTexts)
    {node : NodeLoop platform} {msg : Message} {ep : Endpoint} (hproper : node.Proper Named)
    (draws : Draws) (hv4 : ep.IsV4) (hsound : IceMessage.SoundPart platform msg)
    (htells : IceLoop.Tells platform Named msg) :
    (node.incomeIceAgent draws msg ep).Proper Named := by
  rw [NodeLoop.incomeIceAgent]
  split
  · exact { hproper with }
  · next ice hreceive =>
      exact { hproper with
        ice := {
          proper := hproper.ice.proper.receive hreads hshort hv4 hsound htells hreceive
          elects := hproper.ice.proper.elects_receive htells hproper.ice.elects hreceive
          settled := fun id =>
            IceLoop.settledAt_receive hreceive (hproper.ice.settled id) }
        table := by
          obtain ⟨result, -, rfl⟩ := IceLoop.receive_eq_some hreceive
          exact hproper.table }

theorem Proper.storeMessage {node : NodeLoop platform} (hproper : node.Proper Named)
    (draws : Draws) (msg : Message) (ep : Endpoint) :
    (node.storeMessage draws msg ep).Proper Named := by
  obtain ⟨msgPool, hstored⟩ := node.exists_storeMessage draws msg ep
  rw [hstored]
  exact { hproper with }

theorem Proper.onReceivePacket (hreads : platform.ReadsBack) (hshort : platform.ShortTexts)
    {node : NodeLoop platform} {draws : Draws} {raw : List UInt8} {msg : Message}
    {ep : Endpoint} (hproper : node.Proper Named)
    (hdecode : Message.decode platform raw = .ok msg) (hv4 : ep.IsV4)
    (hkademlia : KMessage.SoundPart platform msg)
    (hice : IceMessage.SoundPart platform msg) (htells : IceLoop.Tells platform Named msg) :
    (node.onReceivePacket draws raw ep).Proper Named := by
  have hfirst := hproper.incomeKademlia hreads hshort hv4 hkademlia
  have hsecond : (andThen (NodeLoop.incomeIceAgent draws msg ep)
      (node.incomeKademlia msg ep)).Proper Named := by
    rw [andThen]
    split_ifs
    · exact hfirst
    · exact hfirst.incomeIceAgent hreads hshort draws hv4 hice htells
  rw [onReceivePacket_of_decode hdecode, andThen]
  split_ifs
  · exact hsecond
  · exact hsecond.storeMessage draws msg ep

/-! ## What is sent -/

variable (platform) in
inductive Writes (node : NodeLoop platform) : Outgoing → Prop
  | kademlia (ep : Endpoint) (body : Json)
      (hsent : ⟨ep, .ofPart "kademlia" body⟩ ∈ node.dht.loop.io.sent) :
      Writes node ⟨ep, .ofPart "kademlia" body⟩
  | signaling (ep : Endpoint) (iceMsg : IceMessage) (id : Uuid)
      (hsound : iceMsg.SoundSignaling platform id) :
      Writes node ⟨ep, .ofPart "ice_agent" iceMsg.encode⟩
  | stun (ep : Endpoint) (iceMsg : IceMessage) (p : StunSubProtocol) (id : Uuid)
      (hsound : iceMsg.SoundStun platform p id)
      (hissued : p = .bindingRequest → id ∈ node.ice.issued)
      (hnames : p = .bindingResponse → iceMsg.getGlobalEp platform = .ok ep) :
      Writes node ⟨ep, .ofPart "ice_agent" iceMsg.encode⟩
  | messenger (ep : Endpoint) (text : String) (hgiven : (ep, text) ∈ node.given) :
      Writes node ⟨ep, .ofPart "messenger" (.string text)⟩
  | dummy (ep : Endpoint) : Writes node ⟨ep, .ofPart "dummy" (.string "signaling dummy")⟩

theorem Proper.writes (hshort : platform.ShortTexts) {node : NodeLoop platform}
    (hproper : node.Proper Named) {out : Outgoing} (hout : out ∈ node.sent) :
    node.Writes platform out := by
  have hkademlia : ∀ out ∈ node.dht.loop.io.sent, node.Writes platform out := by
    intro out hout
    obtain ⟨-, body, rpc, messageType, id, hmsg, -⟩ :=
      (hproper.dht.sent out hout).exists_sound hshort
    obtain ⟨ep, msg⟩ := out
    obtain rfl : msg = .ofPart "kademlia" body := hmsg
    exact .kademlia ep body hout
  cases List.mem_append.mp hout with
  | inl hanswer => exact hkademlia out (hproper.answers hanswer)
  | inr hsent =>
      cases hproper.ice.proper.sent out hsent with
      | dummy ep => exact .dummy ep
      | signaling ep iceMsg id hsound => exact .signaling ep iceMsg id hsound
      | bindingRequest ep iceMsg id hsound hissued =>
          exact .stun ep iceMsg .bindingRequest id hsound (fun _ => hissued) nofun
      | bindingResponse ep iceMsg id hsound hnames =>
          exact .stun ep iceMsg .bindingResponse id hsound nofun fun _ => hnames
      | payload ep param payload hcarried =>
          rcases hcarried with ⟨rfl, hrequest⟩ | ⟨rfl, text, rfl, hgiven⟩
          · exact hkademlia _ hrequest
          · exact .messenger ep text hgiven

namespace Writes

variable {node : NodeLoop platform} {out : Outgoing}

/-- Everything that is sent can be encoded. -/
theorem encodable (hshort : platform.ShortTexts) (hproper : node.Proper Named)
    (hwrites : node.Writes platform out) : out.msg.Encodable := by
  cases hwrites with
  | kademlia ep body hsent =>
      obtain ⟨-, other, rpc, messageType, id, hmsg, hsound, -⟩ :=
        (hproper.dht.sent _ hsent).exists_sound hshort
      obtain rfl : body = other := KMessage.ofPart_injective hmsg
      exact Message.encodable_ofPart (by decide) hsound.encodable
  | signaling ep iceMsg id hsound =>
      exact Message.encodable_ofPart (by decide) hsound.encodable
  | stun ep iceMsg p id hsound hissued hnames =>
      exact Message.encodable_ofPart (by decide) hsound.encodable
  | messenger ep text hgiven =>
      exact Message.encodable_ofPart (by decide) (hproper.given _ hgiven)
  | dummy ep =>
      exact Message.encodable_ofPart (by decide)
        (Bson.encodable_string (by decide) (by decide))

theorem mem_sent_of_kademlia (hwrites : node.Writes platform out) {body : Json}
    (hpart : out.msg.getParam "kademlia" = some body) :
    ⟨out.dest, .ofPart "kademlia" body⟩ ∈ node.dht.loop.io.sent := by
  cases hwrites with
  | kademlia ep other hsent =>
      rw [Message.getParam_ofPart, Option.some.injEq] at hpart
      rw [← hpart]
      exact hsent
  | _ =>
      rw [Message.getParam_ofPart_of_ne (by decide) (by decide)] at hpart
      cases hpart

theorem given_of_messenger (hwrites : node.Writes platform out) {payload : Json}
    (hpart : out.msg.getParam "messenger" = some payload) :
    ∃ text, payload = .string text ∧ (out.dest, text) ∈ node.given := by
  cases hwrites with
  | messenger ep text hgiven =>
      rw [Message.getParam_ofPart, Option.some.injEq] at hpart
      exact ⟨text, hpart.symm, hgiven⟩
  | _ =>
      rw [Message.getParam_ofPart_of_ne (by decide) (by decide)] at hpart
      cases hpart

theorem soundKademlia (hshort : platform.ShortTexts) (hproper : node.Proper Named)
    (hwrites : node.Writes platform out) : KMessage.SoundPart platform out.msg := by
  intro body hpart
  obtain ⟨-, other, rpc, messageType, id, hmsg, hsound, -⟩ :=
    (hproper.dht.sent _ (hwrites.mem_sent_of_kademlia hpart)).exists_sound hshort
  obtain rfl : body = other := KMessage.ofPart_injective hmsg
  exact ⟨rpc, messageType, id, hsound⟩

/-- The ICE part of a message; a binding request has an id of its sender, and an answer names
where it goes. -/
theorem exists_iceMessage (hwrites : node.Writes platform out) {part : Json}
    (hpart : out.msg.getParam "ice_agent" = some part) :
    ∃ iceMsg : IceMessage, part = iceMsg.encode ∧
      ((∃ id, iceMsg.SoundSignaling platform id) ∨
        ∃ p id, iceMsg.SoundStun platform p id ∧
          (p = .bindingRequest → id ∈ node.ice.issued) ∧
            (p = .bindingResponse → iceMsg.getGlobalEp platform = .ok out.dest)) := by
  cases hwrites with
  | signaling ep iceMsg id hsound =>
      rw [Message.getParam_ofPart, Option.some.injEq] at hpart
      exact ⟨iceMsg, hpart.symm, Or.inl ⟨id, hsound⟩⟩
  | stun ep iceMsg p id hsound hissued hnames =>
      rw [Message.getParam_ofPart, Option.some.injEq] at hpart
      exact ⟨iceMsg, hpart.symm, Or.inr ⟨p, id, hsound, hissued, hnames⟩⟩
  | _ =>
      rw [Message.getParam_ofPart_of_ne (by decide) (by decide)] at hpart
      cases hpart

theorem soundIce (hwrites : node.Writes platform out) :
    IceMessage.SoundPart platform out.msg := by
  intro part hpart
  obtain ⟨iceMsg, rfl, hkind⟩ := hwrites.exists_iceMessage hpart
  refine ⟨iceMsg, rfl, hkind.imp_right ?_⟩
  rintro ⟨p, id, hsound, -⟩
  exact ⟨p, id, hsound⟩

/-- A request, as it arrives, has an id that its sender has drawn. -/
theorem issued_of_request (hreads : platform.ReadsBack) (hshort : platform.ShortTexts)
    (hproper : node.Proper Named) (hwrites : node.Writes platform out) {body : Json}
    {rpc : KMessage.Rpc} {id : Uuid}
    (hpart : out.msg.ordered.getParam "kademlia" = some body)
    (hsound : KMessage.Sound platform body rpc .request id) : id ∈ node.dht.loop.issued := by
  rw [Message.getParam_ordered, Option.map_eq_some_iff] at hpart
  obtain ⟨sent, hsent, rfl⟩ := hpart
  obtain ⟨-, other, otherRpc, messageType, otherId, hmsg, hother, hissued⟩ :=
    (hproper.dht.sent _ (hwrites.mem_sent_of_kademlia hsent)).exists_sound hshort
  obtain rfl : sent = other := KMessage.ofPart_injective hmsg
  obtain ⟨-, htype, rfl⟩ := hother.ordered.unique hreads hsound
  exact hissued htype

/-- So has a binding request. -/
theorem issued_of_binding (hreads : platform.ReadsBack) (hwrites : node.Writes platform out)
    {iceMsg : IceMessage} {id : Uuid}
    (hpart : out.msg.ordered.getParam "ice_agent" = some iceMsg.encode)
    (hsound : iceMsg.SoundStun platform .bindingRequest id) : id ∈ node.ice.issued := by
  rw [Message.getParam_ordered, Option.map_eq_some_iff] at hpart
  obtain ⟨sent, hsent, heq⟩ := hpart
  obtain ⟨written, rfl, hkind⟩ := hwrites.exists_iceMessage hsent
  rw [IceMessage.encode_ordered] at heq
  obtain rfl := IceLoop.encode_injective heq
  rcases hkind with ⟨other, hsignaling⟩ | ⟨p, other, hstun, hissued, -⟩
  · have hprotocol := hsignaling.ordered.getProtocol.symm.trans hsound.getProtocol
    cases hprotocol
  · have hid := (IceMessage.getObserverId_of_get hreads hstun.ordered.observerId).symm.trans
      (IceMessage.getObserverId_of_get hreads hsound.observerId)
    obtain rfl := Except.ok.inj hid
    refine hissued ?_
    have hcode := hstun.ordered.getSubProtocol.symm.trans hsound.getSubProtocol
    cases p with
    | bindingRequest => rfl
    | bindingResponse => cases hcode

/-- An answer, as it arrives, names where it was sent. -/
theorem tells (hreads : platform.ReadsBack) (hwrites : node.Writes platform out) :
    IceLoop.Tells platform (· = out.dest) out.msg.ordered := by
  intro iceMsg obsId globalEp hstun hglobalEp
  obtain ⟨p, hsound⟩ :=
    IceLoop.soundStun_of_ofProtocol hreads hwrites.soundIce.ordered hstun
  obtain ⟨hmsg, -, -⟩ := IceMessage.ofProtocol_eq_some_iff.mp hstun
  obtain ⟨part, hpart, -⟩ := Option.bind_eq_some_iff.mp hmsg
  rw [Message.getParam_ordered, Option.map_eq_some_iff] at hpart
  obtain ⟨sent, hsent, -⟩ := hpart
  obtain ⟨written, rfl, hkind⟩ := hwrites.exists_iceMessage hsent
  have hread : out.msg.ordered.getParam "ice_agent" = some written.ordered.encode := by
    rw [Message.getParam_ordered, hsent, Option.map_some, IceMessage.encode_ordered]
  obtain rfl := Option.some.inj ((IceLoop.ofMessage_of_encode hread).symm.trans hmsg)
  rcases hkind with ⟨id, hsignaling⟩ | ⟨q, id, hwritten, -, hnames⟩
  · have hprotocol := hsignaling.ordered.getProtocol.symm.trans hsound.getProtocol
    cases hprotocol
  · cases q with
    | bindingRequest => exact absurd hglobalEp (hwritten.ordered.getGlobalEp_ne_ok globalEp)
    | bindingResponse =>
        rw [hwritten.getGlobalEp_ordered hreads, hnames rfl] at hglobalEp
        exact (Except.ok.inj hglobalEp).symm

end Writes

/-! ## What ends a node -/

/-- A message of another node ends the node exactly when it asks under an id that the node
waits for itself. -/
theorem isCrashed_onReceivePacket_iff (hreads : platform.ReadsBack)
    (hshort : platform.ShortTexts) {node : NodeLoop platform} {draws : Draws}
    {raw : List UInt8} {msg : Message} {ep : Endpoint} (hproper : node.Proper Named)
    (hdecode : Message.decode platform raw = .ok msg) (hv4 : ep.IsV4)
    (hkademlia : KMessage.SoundPart platform msg) (hice : IceMessage.SoundPart platform msg) :
    (node.onReceivePacket draws raw ep).isCrashed = true ↔
      node.dht.EchoesFindNode platform msg ∨ node.ice.EchoesBinding platform msg := by
  have hfirst : (node.incomeKademlia msg ep).isCrashed = true ↔
      node.dht.EchoesFindNode platform msg := by
    rw [← MaintainedDht.receive_eq_none_iff hreads hshort hproper.dht hkademlia ep,
      ← Option.isNone_iff_eq_none]
    rfl
  have hecho : (node.incomeKademlia msg ep).ice.EchoesBinding platform msg ↔
      node.ice.EchoesBinding platform msg := Iff.rfl
  have hfails := IceLoop.receive_eq_none_iff hreads hshort
    (hproper.incomeKademlia hreads hshort hv4 hkademlia).ice.proper hice draws.observerId ep
  have hstore : ∀ node : NodeLoop platform,
      (andThen (storeMessage draws msg ep) node).isCrashed = node.isCrashed := by
    intro node
    obtain ⟨msgPool, hstored⟩ := node.exists_storeMessage draws msg ep
    rw [andThen, hstored]
    split_ifs
    · rfl
    · rfl
  rw [onReceivePacket_of_decode hdecode, hstore]
  by_cases hraised : (node.incomeKademlia msg ep).isCrashed = true
  · rw [andThen, if_pos hraised]
    exact iff_of_true hraised (Or.inl (hfirst.mp hraised))
  · rw [or_iff_right fun hecho => hraised (hfirst.mpr hecho), ← hecho, ← hfails, andThen,
      if_neg hraised, incomeIceAgent]
    cases hreceive : (node.incomeKademlia msg ep).ice.receive platform draws.observerId msg
        ep with
    | none => simp
    | some ice => simp [hraised]

end NodeLoop

end Net

end SsP2p

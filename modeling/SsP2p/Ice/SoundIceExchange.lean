import SsP2p.Ice.ElectionOutcome
import SsP2p.Ice.IceGrowth
import SsP2p.Ice.SoundIceMessages
import SsP2p.Ice.TraversalOnce

/-!
# What the ICE agent sends to others

As long as an agent is given IPv4 endpoints and the messages of other nodes, everything
that it sends is a message of its own kind, the dummy, or a message that it was given to
send.  The only messages of other nodes that it fails on are binding requests under an id
that it waits for itself.
-/

namespace SsP2p.Ice

open Kademlia

namespace IceLoop

section Definitions

variable (platform : Platform)
-- what the agent was given to send to an endpoint
variable (Carried : Endpoint → String → Json → Prop)
-- the endpoints that the agent may take for its own
variable (Named : Endpoint → Prop)

inductive Vouched (loop : IceLoop) : Outgoing → Prop
  | dummy (ep : Endpoint) :
      Vouched loop ⟨ep, .ofPart "dummy" (.string "signaling dummy")⟩
  | signaling (ep : Endpoint) (iceMsg : IceMessage) (id : Uuid)
      (hsound : iceMsg.SoundSignaling platform id) :
      Vouched loop ⟨ep, .ofPart "ice_agent" iceMsg.encode⟩
  | bindingRequest (ep : Endpoint) (iceMsg : IceMessage) (id : Uuid)
      (hsound : iceMsg.SoundStun platform .bindingRequest id) (hissued : id ∈ loop.issued) :
      Vouched loop ⟨ep, .ofPart "ice_agent" iceMsg.encode⟩
  | bindingResponse (ep : Endpoint) (iceMsg : IceMessage) (id : Uuid)
      (hsound : iceMsg.SoundStun platform .bindingResponse id)
      (hnames : iceMsg.getGlobalEp platform = .ok ep) :
      Vouched loop ⟨ep, .ofPart "ice_agent" iceMsg.encode⟩
  | payload (ep : Endpoint) (param : String) (payload : Json)
      (hcarried : Carried ep param payload) : Vouched loop ⟨ep, .ofPart param payload⟩

/-- Every reply to a binding request names one of these endpoints. -/
def RepliesName (obs : BindingRequest) : Prop :=
  ∀ node ep, (node, some ep) ∈ obs.responses → Named ep

/-- So does the message, if it is a reply. -/
def Tells (msg : Message) : Prop :=
  ∀ iceMsg obsId globalEp, IceMessage.ofProtocol platform .stun msg = some (iceMsg, obsId) →
    iceMsg.getGlobalEp platform = .ok globalEp → Named globalEp

/-- The invariant: the agent knows IPv4 endpoints only, keeps what it was given to send,
and vouches for everything that it has sent. -/
structure Proper (loop : IceLoop) : Prop where
  v4 : ∀ ep, Named ep → ep.IsV4
  selfEp : Named loop.agent.selfEp
  known : ∀ ep, loop.table.Knows ep → ep.IsV4
  requests : ∀ id obs, loop.strage.requests.find id = some obs →
    Carried obs.ep obs.param obs.payload
  replies : ∀ id obs, loop.strage.bindings.find id = some obs → RepliesName Named obs
  handlers : ∀ id ep, .srHandler id (some ep) ∈ loop.io.pending → Named ep
  sent : ∀ out ∈ loop.io.sent, loop.Vouched platform Carried out

/-- What may happen to the agent in a network of nodes over IPv4. -/
def Admits : Event → Prop
  | .signalingSend _ destEp rootParam payload =>
      destEp.IsV4 ∧ Carried destEp rootParam payload
  | .receive _ msg ep =>
      ep.IsV4 ∧ IceMessage.SoundPart platform msg ∧ Tells platform Named msg
  | .updateGlobalSelfEndpoint ep => Named ep
  | .setTable table => ∀ ep, table.Knows ep → ep.IsV4
  | _ => True

/-- The message is a binding request under an id that the agent waits for itself. -/
def EchoesBinding (loop : IceLoop) (msg : Message) : Prop :=
  ∃ (iceMsg : IceMessage) (id : Uuid), msg.getParam "ice_agent" = some iceMsg.encode ∧
    iceMsg.SoundStun platform .bindingRequest id ∧ (loop.strage.bindings.find id).isSome

end Definitions

variable {platform : Platform} {Carried : Endpoint → String → Json → Prop}
  {Named : Endpoint → Prop}

theorem Vouched.mono {Other : Endpoint → String → Json → Prop} {loop next : IceLoop}
    {out : Outgoing} (hvouched : loop.Vouched platform Carried out)
    (hcarried : ∀ ep param payload, Carried ep param payload → Other ep param payload)
    (hissued : loop.issued ⊆ next.issued) : next.Vouched platform Other out := by
  cases hvouched with
  | dummy ep => exact .dummy ep
  | signaling ep iceMsg id hsound => exact .signaling ep iceMsg id hsound
  | bindingRequest ep iceMsg id hsound hid =>
      exact .bindingRequest ep iceMsg id hsound (hissued hid)
  | bindingResponse ep iceMsg id hsound hnames =>
      exact .bindingResponse ep iceMsg id hsound hnames
  | payload ep param payload hpayload =>
      exact .payload ep param payload (hcarried ep param payload hpayload)

theorem Tells.mono {More : Endpoint → Prop} {msg : Message}
    (htells : Tells platform Named msg) (hmore : ∀ ep, Named ep → More ep) :
    Tells platform More msg := by
  intro iceMsg obsId globalEp hstun hglobalEp
  exact hmore globalEp (htells iceMsg obsId globalEp hstun hglobalEp)

/-- More may be carried. -/
theorem Proper.mono {Other : Endpoint → String → Json → Prop} {loop : IceLoop}
    (hproper : loop.Proper platform Carried Named)
    (hcarried : ∀ ep param payload, Carried ep param payload → Other ep param payload) :
    loop.Proper platform Other Named where
  v4 := hproper.v4
  selfEp := hproper.selfEp
  known := hproper.known
  requests id obs hobs := hcarried _ _ _ (hproper.requests id obs hobs)
  replies := hproper.replies
  handlers := hproper.handlers
  sent out hout := (hproper.sent out hout).mono hcarried (List.Subset.refl _)

theorem proper_start {selfEp : Endpoint} {table : KRoutingTable}
    (hv4 : ∀ ep, Named ep → ep.IsV4) (hself : Named selfEp)
    (hknown : ∀ ep, table.Knows ep → ep.IsV4) (now : ℕ) :
    (start selfEp table now).Proper platform Carried Named where
  v4 := hv4
  selfEp := hself
  known := hknown
  requests id obs hobs := by cases hobs
  replies id obs hobs := by cases hobs
  handlers id ep hpending := by simp [start] at hpending
  sent out hout := by cases hout

/-- Nothing is stored or handed over but what was there before. -/
structure Keeps (loop next : IceLoop) : Prop where
  requests : ∀ id obs, next.strage.requests.find id = some obs →
    ∃ old, loop.strage.requests.find id = some old ∧ obs.ep = old.ep ∧
      obs.param = old.param ∧ obs.payload = old.payload
  replies : ∀ id obs, next.strage.bindings.find id = some obs →
    ∃ old, loop.strage.bindings.find id = some old ∧ obs.responses = old.responses
  handlers : ∀ id ep, .srHandler id (some ep) ∈ next.io.pending →
    .srHandler id (some ep) ∈ loop.io.pending
  issued : loop.issued ⊆ next.issued

theorem keeps_of_eq {loop next : IceLoop}
    (hrequests : next.strage.requests = loop.strage.requests)
    (hbindings : next.strage.bindings = loop.strage.bindings)
    (hhandlers : ∀ id ep, .srHandler id (some ep) ∈ next.io.pending →
      .srHandler id (some ep) ∈ loop.io.pending)
    (hissued : loop.issued ⊆ next.issued) : Keeps loop next where
  requests _ obs hobs := ⟨obs, hrequests ▸ hobs, rfl, rfl, rfl⟩
  replies _ obs hobs := ⟨obs, hbindings ▸ hobs, rfl⟩
  handlers := hhandlers
  issued := hissued

/-- A step that stores nothing new, and vouches for what it sends. -/
theorem Proper.of_keeps {loop next : IceLoop} (hproper : loop.Proper platform Carried Named)
    (hkeeps : Keeps loop next) (hself : Named next.agent.selfEp)
    (hknown : ∀ ep, next.table.Knows ep → ep.IsV4)
    (hsent : ∀ out ∈ next.io.sent, out ∈ loop.io.sent ∨ next.Vouched platform Carried out) :
    next.Proper platform Carried Named where
  v4 := hproper.v4
  selfEp := hself
  known := hknown
  requests id obs hobs := by
    obtain ⟨old, hold, hep, hparam, hpayload⟩ := hkeeps.requests id obs hobs
    rw [hep, hparam, hpayload]
    exact hproper.requests id old hold
  replies id obs hobs := by
    obtain ⟨old, hold, hresponses⟩ := hkeeps.replies id obs hobs
    rw [RepliesName, hresponses]
    exact hproper.replies id old hold
  handlers id ep hpending := hproper.handlers id ep (hkeeps.handlers id ep hpending)
  sent out hout := (hsent out hout).elim
    (fun hold => (hproper.sent out hold).mono (fun _ _ _ hcarried => hcarried) hkeeps.issued)
    fun hvouched => hvouched

/-! ## Sending -/

/-- What one message to several endpoints adds. -/
theorem mem_sent_sendAll {io : IoContext} {iceMsg : IceMessage} {eps : List Endpoint}
    {out : Outgoing} (hout : out ∈ (SignalingServer.sendAll io iceMsg eps).sent) :
    out ∈ io.sent ∨ ∃ ep ∈ eps, out = ⟨ep, .ofPart "ice_agent" iceMsg.encode⟩ := by
  rw [SignalingServer.sendAll_eq] at hout
  refine (List.mem_append.mp hout).imp_right fun hnew => ?_
  obtain ⟨ep, hep, rfl⟩ := List.mem_map.mp hnew
  exact ⟨ep, hep, rfl⟩

theorem Proper.signalingSend (hshort : platform.ShortTexts) {loop : IceLoop} {drawn : Uuid}
    {destEp : Endpoint} {rootParam : String} {payload : Json}
    (hproper : loop.Proper platform Carried Named) (hdest : destEp.IsV4)
    (hcarried : Carried destEp rootParam payload) :
    (loop.signalingSend platform drawn destEp rootParam payload).Proper platform Carried Named := by
  rw [IceLoop.signalingSend, SignalingServer.signalingSend]
  split_ifs
  · refine hproper.of_keeps (keeps_of_eq rfl rfl (fun _ _ hpending => hpending)
      (List.subset_cons_self _ _)) hproper.selfEp hproper.known fun out hout => ?_
    refine (List.mem_append.mp hout).imp_right fun hnew => ?_
    rw [List.mem_singleton.mp hnew]
    exact .payload destEp rootParam payload hcarried
  · have hsound := IceMessage.soundSignaling_requestMessage hshort
      (.make drawn loop.io.now destEp rootParam payload) hdest (hproper.v4 _ hproper.selfEp)
    exact {
      v4 := hproper.v4
      selfEp := hproper.selfEp
      known := hproper.known
      requests := by
        intro id obs hobs
        rcases KeyedList.find_insert_cases hobs with ⟨-, rfl⟩ | hold
        · exact hcarried
        · exact hproper.requests id obs hold
      replies := hproper.replies
      handlers := by
        intro id ep hpending
        have hkept : ((SignalingRequest.make drawn loop.io.now destEp rootParam payload).init
            platform loop.agent.selfEp loop.table loop.io).pending = loop.io.pending :=
          SignalingServer.pending_sendAll _ _ _
        exact hproper.handlers id ep (hkept ▸ hpending)
      sent := by
        intro out hout
        rcases mem_sent_sendAll hout with hfirst | ⟨ep, -, rfl⟩
        · cases List.mem_append.mp hfirst with
          | inl hold =>
              exact (hproper.sent out hold).mono (fun _ _ _ hcarried => hcarried)
                (List.subset_cons_self _ _)
          | inr hdummy =>
              rw [List.mem_singleton.mp hdummy]
              exact .dummy _
        · exact .signaling ep _ _ hsound }

theorem Proper.bindingRequest (hshort : platform.ShortTexts) {loop : IceLoop} {drawn : Uuid}
    {targetNodes : List Endpoint} {reliability : ℕ} {isAsync : Bool}
    (hproper : loop.Proper platform Carried Named) :
    (loop.bindingRequest platform drawn targetNodes reliability isAsync).Proper platform
      Carried Named := by
  have hasync : ∀ next : IceLoop, next.Proper platform Carried Named →
      ({ next.withStrage (next.strage.asyncGetBinding drawn) with
        history := { next.history with registered := drawn :: next.history.registered } } :
          IceLoop).Proper platform Carried Named := by
    intro next hnext
    refine hnext.of_keeps ⟨fun id obs hobs => ⟨obs, hobs, rfl, rfl, rfl⟩, fun id obs hobs => ?_,
      fun _ _ hpending => hpending, List.Subset.refl _⟩ hnext.selfEp hnext.known
        fun _ hout => Or.inl hout
    obtain ⟨old, hold, rfl | rfl⟩ := KeyedList.find_modify_cases BindingRequest.id_asyncGet hobs
    · exact ⟨old, hold, rfl⟩
    · exact ⟨obs, hold, rfl⟩
  have hsync : (loop.bindingRequest platform drawn targetNodes reliability false).Proper
      platform Carried Named := by
    simp only [IceLoop.bindingRequest, StunServer.bindingRequest, Bool.false_eq_true, if_false]
    split_ifs
    · exact hproper.of_keeps (keeps_of_eq rfl rfl (fun _ _ hpending => hpending)
        (List.subset_cons_self _ _)) hproper.selfEp hproper.known fun _ hout => Or.inl hout
    · exact {
        v4 := hproper.v4
        selfEp := hproper.selfEp
        known := hproper.known
        requests := hproper.requests
        replies := by
          intro id obs hobs
          rcases KeyedList.find_insert_cases hobs with ⟨-, rfl⟩ | hold
          · rw [RepliesName, BindingRequest.foldl_addRequestedEp]
            intro node ep hentry
            simp [BindingRequest.make] at hentry
          · exact hproper.replies id obs hold
        handlers := by
          intro id ep hpending
          rw [SignalingServer.pending_sendAll, BindingRequest.init, IoContext.pending_asyncWait,
            Multiset.mem_cons] at hpending
          exact hproper.handlers id ep (hpending.resolve_left (by simp))
        sent := by
          intro out hout
          rcases mem_sent_sendAll hout with hold | ⟨ep, -, rfl⟩
          · exact (hproper.sent out hold).mono (fun _ _ _ hcarried => hcarried)
              (List.subset_cons_self _ _)
          · exact .bindingRequest ep _ drawn (IceMessage.soundStun_request hshort drawn)
              List.mem_cons_self }
  cases isAsync with
  | false => exact hsync
  | true => exact hasync _ hsync

/-! ## Replies -/

/-- A reply changes the entry of one node at most. -/
theorem mem_addResponse {responses : Responses} {srcEp responseEp : Endpoint}
    {entry : Endpoint × Option Endpoint}
    (hentry : entry ∈ responses.addResponse srcEp responseEp) :
    entry ∈ responses ∨ entry = (srcEp, some responseEp) := by
  induction responses with
  | nil => cases hentry
  | cons head responses ih =>
      rw [Responses.addResponse] at hentry
      split_ifs at hentry with hsrc
      · rcases List.mem_cons.mp hentry with rfl | hrest
        · exact Or.inr (by rw [hsrc])
        · exact Or.inl (List.mem_cons_of_mem _ hrest)
      · rcases List.mem_cons.mp hentry with rfl | hrest
        · exact Or.inl List.mem_cons_self
        · exact (ih hrest).imp_left (List.mem_cons_of_mem _)

theorem repliesName_addResponse {obs : BindingRequest} (hobs : RepliesName Named obs)
    {srcEp responseEp : Endpoint} (hnamed : Named responseEp) :
    RepliesName Named (obs.addResponse srcEp responseEp) := by
  intro node ep hentry
  cases mem_addResponse hentry with
  | inl hold => exact hobs node ep hold
  | inr hnew =>
      rw [Option.some.inj (Prod.mk.inj hnew).2]
      exact hnamed

/-- Whoever is elected was named by a reply. -/
theorem named_of_consensus {obs : BindingRequest} (hobs : RepliesName Named obs) {ep : Endpoint}
    (hep : (obs.consensus platform false).ep = some ep) : Named ep := by
  rw [BindingRequest.ep_consensus_eq] at hep
  split_ifs at hep
  have hmem := (Plurality.elect_counter platform.counterSort hep).1
  obtain ⟨⟨node, reply⟩, hentry, hreply⟩ := List.mem_filterMap.mp (List.mem_of_mem_filter hmem)
  obtain rfl : reply = some ep := hreply
  exact hobs node ep hentry

/-! ## Messages -/

theorem ofMessage_of_encode {msg : Message} {iceMsg : IceMessage}
    (hpart : msg.getParam "ice_agent" = some iceMsg.encode) :
    IceMessage.ofMessage msg = some iceMsg := by
  rw [IceMessage.ofMessage, hpart]
  rfl

/-- A part that is read as a signaling message was written as one. -/
theorem soundSignaling_of_ofProtocol (hreads : platform.ReadsBack) {msg : Message}
    {iceMsg : IceMessage} {obsId : Uuid} (hsound : IceMessage.SoundPart platform msg)
    (hsignaling : IceMessage.ofProtocol platform .signaling msg = some (iceMsg, obsId)) :
    iceMsg.SoundSignaling platform obsId := by
  obtain ⟨hmsg, hid, hprotocol⟩ := IceMessage.ofProtocol_eq_some_iff.mp hsignaling
  obtain ⟨part, hpart, -⟩ := Option.bind_eq_some_iff.mp hmsg
  obtain ⟨written, rfl, hkind⟩ := hsound part hpart
  obtain rfl := Option.some.inj ((ofMessage_of_encode hpart).symm.trans hmsg)
  rcases hkind with ⟨id, hwritten⟩ | ⟨p, id, hwritten⟩
  · have hread := IceMessage.getObserverId_of_get hreads hwritten.observerId
    obtain rfl := Except.ok.inj (hread.symm.trans hid)
    exact hwritten
  · rw [hwritten.getProtocol] at hprotocol
    cases hprotocol

/-- A part that is read as a STUN message was written as one. -/
theorem soundStun_of_ofProtocol (hreads : platform.ReadsBack) {msg : Message}
    {iceMsg : IceMessage} {obsId : Uuid} (hsound : IceMessage.SoundPart platform msg)
    (hstun : IceMessage.ofProtocol platform .stun msg = some (iceMsg, obsId)) :
    ∃ p, iceMsg.SoundStun platform p obsId := by
  obtain ⟨hmsg, hid, hprotocol⟩ := IceMessage.ofProtocol_eq_some_iff.mp hstun
  obtain ⟨part, hpart, -⟩ := Option.bind_eq_some_iff.mp hmsg
  obtain ⟨written, rfl, hkind⟩ := hsound part hpart
  obtain rfl := Option.some.inj ((ofMessage_of_encode hpart).symm.trans hmsg)
  rcases hkind with ⟨id, hwritten⟩ | ⟨p, id, hwritten⟩
  · rw [hwritten.getProtocol] at hprotocol
    cases hprotocol
  · have hread := IceMessage.getObserverId_of_get hreads hwritten.observerId
    obtain rfl := Except.ok.inj (hread.symm.trans hid)
    exact ⟨p, hwritten⟩

/-- A handler that is posted after a reply gets an endpoint that a reply named. -/
theorem named_of_settle {obs : BindingRequest} (hobs : RepliesName Named obs) {io : IoContext}
    {id : Uuid} {ep : Endpoint}
    (hpending : .srHandler id (some ep) ∈
      (obs.settle (obs.consensus platform false) io).pending) :
    Named ep ∨ .srHandler id (some ep) ∈ io.pending := by
  by_cases hopen : (obs.consensus platform false).state = .onHandling
  · rw [BindingRequest.settle, if_pos hopen] at hpending
    exact Or.inr hpending
  · rw [BindingRequest.pending_settle hopen] at hpending
    split_ifs at hpending
    · refine (Multiset.mem_cons.mp hpending).imp_left fun heq => ?_
      exact named_of_consensus hobs (Callback.srHandler.inj heq).2.symm
    · exact Or.inr hpending

theorem Proper.reply {loop : IceLoop} {drawn : Uuid} {msg : Message} {ep globalEp : Endpoint}
    {obs : BindingRequest} (hproper : loop.Proper platform Carried Named)
    (hfind : loop.strage.bindings.find obs.id = some obs) (hglobalEp : Named globalEp) :
    (loop.received platform drawn msg ep
      (loop.agent.withStrage (loop.strage.answerBinding platform ep globalEp obs.id),
        obs.answer platform ep globalEp loop.io)).Proper platform Carried Named where
  v4 := hproper.v4
  selfEp := hproper.selfEp
  known := hproper.known
  requests := hproper.requests
  replies id found hfound := by
    obtain ⟨old, hold, rfl | rfl⟩ :=
      KeyedList.find_modify_cases (BindingRequest.id_answered platform ep globalEp) hfound
    · have hreplies : RepliesName Named (old.addResponse ep globalEp) :=
        repliesName_addResponse (hproper.replies id old hold) hglobalEp
      rw [RepliesName, BindingRequest.responses_answered]
      exact hreplies
    · exact hproper.replies id found hold
  handlers id found hpending :=
    (named_of_settle (repliesName_addResponse (hproper.replies obs.id obs hfind) hglobalEp)
      hpending).elim (fun hnamed => hnamed) (hproper.handlers id found)
  sent out hout := by
    have hkept : (obs.answer platform ep globalEp loop.io).sent = loop.io.sent :=
      sent_settle _ _ _
    have hold : out ∈ loop.io.sent := hkept ▸ hout
    exact (hproper.sent out hold).mono (fun _ _ _ hcarried => hcarried)
      (List.subset_cons_self _ _)

theorem Proper.receive (hreads : platform.ReadsBack) (hshort : platform.ShortTexts)
    {loop next : IceLoop} {drawn : Uuid} {msg : Message} {ep : Endpoint}
    (hproper : loop.Proper platform Carried Named) (hv4 : ep.IsV4)
    (hsound : IceMessage.SoundPart platform msg) (htells : Tells platform Named msg)
    (hreceive : loop.receive platform drawn msg ep = some next) :
    next.Proper platform Carried Named := by
  obtain ⟨result, hincome, rfl⟩ := receive_eq_some hreceive
  have hkept : ∀ (strage : IceObserverStrage) (io : IoContext),
      strage.requests = loop.strage.requests → strage.bindings = loop.strage.bindings →
      (∀ id ep, .srHandler id (some ep) ∈ io.pending →
        .srHandler id (some ep) ∈ loop.io.pending) →
      (∀ out ∈ io.sent, out ∈ loop.io.sent ∨
        (loop.received platform drawn msg ep (loop.agent.withStrage strage, io)).Vouched
          platform Carried out) →
      (loop.received platform drawn msg ep (loop.agent.withStrage strage, io)).Proper platform
        Carried Named := fun strage io hrequests hbindings hhandlers hsent =>
    hproper.of_keeps (keeps_of_eq hrequests hbindings hhandlers (List.subset_cons_self _ _))
      hproper.selfEp hproper.known hsent
  cases hincome with
  | other hsignaling hstun =>
      exact hkept loop.strage loop.io rfl rfl (fun _ _ hpending => hpending) fun _ hout =>
        Or.inl hout
  | relay iceMsg obsId obs hsignaling hreceiver =>
      exact hkept _ loop.io rfl rfl (fun _ _ hpending => hpending) fun _ hout => Or.inl hout
  | response iceMsg obsId obs hsignaling hreceiver =>
      exact hkept _ loop.io rfl rfl (fun _ _ hpending => hpending) fun _ hout => Or.inl hout
  | request iceMsg obsId obs nextIo hsignaling hreceiver hrequest =>
      have hfind : loop.strage.requests.find obsId = some obs :=
        find_of_signalingReceiver_request hreceiver
      rw [SignalingRequest.eq_of_incomeMessage hrequest]
      refine hkept loop.strage _ rfl rfl ?_ ?_
      · intro id found hpending
        split_ifs at hpending
        · rw [SignalingRequest.sendCache, IoContext.pending_post, Multiset.mem_cons] at hpending
          exact hpending.resolve_left (by simp)
        · exact hpending
      · intro out hout
        split_ifs at hout
        · refine (List.mem_append.mp hout).imp_right fun hnew => ?_
          rw [List.mem_singleton.mp hnew]
          exact .payload obs.ep obs.param obs.payload (hproper.requests obsId obs hfind)
        · exact Or.inl hout
  | server iceMsg obsId result hsignaling hreceiver hserver =>
      have hwritten := soundSignaling_of_ofProtocol hreads hsound hsignaling
      obtain ⟨strage, copy, eps, hhandled, hcopy⟩ :=
        SignalingServer.exists_sent_of_sound hreads hshort hwritten
          (hproper.v4 _ hproper.selfEp) hproper.known
          loop.strage loop.io drawn
      have hmarks := SignalingServer.marksOnly_of_incomeMessage hserver
      obtain rfl := Except.ok.inj (hhandled.symm.trans hserver)
      refine hkept strage _ hmarks.requests hmarks.bindings ?_ ?_
      · intro id found hpending
        rwa [SignalingServer.pending_sendAll] at hpending
      · intro out hout
        refine (mem_sent_sendAll hout).imp_right ?_
        rintro ⟨ep, -, rfl⟩
        exact .signaling ep copy obsId hcopy
  | reply iceMsg obsId obs globalEp hstun hfind hglobalEp =>
      obtain rfl : obs.id = obsId := KeyedList.key_of_find hfind
      exact hproper.reply hfind (htells iceMsg obs.id globalEp hstun hglobalEp)
  | stun iceMsg obsId nextIo hstun hfind hserver =>
      obtain ⟨p, hwritten⟩ := soundStun_of_ofProtocol hreads hsound hstun
      rw [StunServer.incomeMessage_of_sound hwritten] at hserver
      obtain rfl := Except.ok.inj hserver
      cases p with
      | bindingRequest =>
          refine hkept loop.strage _ rfl rfl ?_ ?_
          · intro id found hpending
            rwa [SignalingServer.pending_sendAll] at hpending
          · intro out hout
            refine (mem_sent_sendAll hout).imp_right ?_
            rintro ⟨dest, hdest, rfl⟩
            obtain rfl := List.mem_singleton.mp hdest
            exact .bindingResponse dest _ obsId (hwritten.responseMessage hshort hv4)
              (IceMessage.getGlobalEp_responseMessage hreads iceMsg hv4)
      | bindingResponse =>
          exact hkept loop.strage loop.io rfl rfl (fun _ _ hpending => hpending) fun _ hout =>
            Or.inl hout

/-! ## Callbacks -/

theorem Proper.ran {loop next : IceLoop} {callback : Callback}
    (hproper : loop.Proper platform Carried Named)
    (hep : ∀ id ep, callback = .srHandler id (some ep) → Named ep)
    (hran : Ran platform loop callback next) : next.Proper platform Carried Named := by
  cases hran with
  | bindingTimeout obs hfind =>
      have hreplies := hproper.replies obs.id obs hfind
      exact {
        v4 := hproper.v4
        selfEp := hproper.selfEp
        known := hproper.known
        requests := hproper.requests
        replies := by
          intro id found hfound
          obtain ⟨old, hold, rfl | rfl⟩ :=
            KeyedList.find_modify_cases (BindingRequest.id_timedOut platform) hfound
          · have hsame : (old.timedOut platform).responses = old.responses :=
              BindingRequest.responses_updateSr _ _
            rw [RepliesName, hsame]
            exact hproper.replies id old hold
          · exact hproper.replies id found hold
        handlers := by
          intro id ep hpending
          have hposted : (obs.onTimeout platform loop.io).pending = _ :=
            BindingRequest.pending_onTimeout platform obs loop.io
          have hmem : .srHandler id (some ep) ∈ (obs.onTimeout platform loop.io).pending :=
            hpending
          rw [hposted] at hmem
          split_ifs at hmem
          · rcases Multiset.mem_cons.mp hmem with heq | hold
            · exact named_of_consensus hreplies (Callback.srHandler.inj heq).2.symm
            · exact hproper.handlers id ep hold
          · exact hproper.handlers id ep hmem
        sent := by
          intro out hout
          have hold : out ∈ loop.io.sent := sent_onTimeout platform obs loop.io ▸ hout
          exact (hproper.sent out hold).mono (fun _ _ _ hcarried => hcarried)
            (List.Subset.refl _) }
  | srHandler obsId ep =>
      cases ep with
      | none => exact hproper
      | some ep =>
          exact hproper.of_keeps (keeps_of_eq rfl rfl (fun _ _ hpending => hpending)
            (List.Subset.refl _)) (hep obsId ep rfl) hproper.known fun _ hout => Or.inl hout
  | traversalDone obs hfind =>
      refine hproper.of_keeps ⟨fun id found hfound => ?_, fun id found hfound =>
        ⟨found, hfound, rfl⟩, fun _ _ hpending => hpending, List.Subset.refl _⟩ hproper.selfEp
          hproper.known fun _ hout => Or.inl hout
      obtain ⟨old, hold, rfl | rfl⟩ :=
        KeyedList.find_modify_cases SignalingRequest.id_traversalDone hfound
      · exact ⟨old, hold, rfl, rfl, rfl⟩
      · exact ⟨found, hold, rfl, rfl, rfl⟩

/-! ## Runs -/

theorem proper_step (hreads : platform.ReadsBack) (hshort : platform.ShortTexts)
    {loop next : IceLoop} {event : Event} (hproper : loop.Proper platform Carried Named)
    (hadmits : Admits platform Carried Named event) (hstep : loop.step platform event = some next) :
    next.Proper platform Carried Named := by
  cases event with
  | signalingSend id destEp rootParam payload =>
      obtain ⟨-, rfl⟩ := of_step_signalingSend hstep
      exact hproper.signalingSend hshort hadmits.1 hadmits.2
  | bindingRequest id targetNodes reliability isAsync =>
      obtain ⟨-, rfl⟩ := of_step_bindingRequest hstep
      exact hproper.bindingRequest hshort
  | receive id msg ep =>
      obtain ⟨-, hreceive⟩ := of_step_receive hstep
      exact hproper.receive hreads hshort hadmits.1 hadmits.2.1 hadmits.2.2 hreceive
  | updateGlobalSelfEndpoint ep =>
      obtain rfl := Option.some.inj hstep
      exact hproper.of_keeps (keeps_of_eq rfl rfl (fun _ _ hpending => hpending)
        (List.Subset.refl _)) hadmits hproper.known fun _ hout => Or.inl hout
  | setTable table =>
      obtain rfl := Option.some.inj hstep
      exact hproper.of_keeps (keeps_of_eq rfl rfl (fun _ _ hpending => hpending)
        (List.Subset.refl _)) hproper.selfEp hadmits fun _ hout => Or.inl hout
  | refreshTick =>
      obtain rfl := Option.some.inj hstep
      refine hproper.of_keeps ⟨fun id obs hobs => ?_, fun id obs hobs => ?_,
        fun id ep hpending => ?_, List.Subset.refl _⟩ hproper.selfEp hproper.known
          fun _ hout => Or.inl hout
      · exact ⟨obs, KeyedList.find_of_find_filter hobs, rfl, rfl, rfl⟩
      · exact ⟨obs, KeyedList.find_of_find_filter hobs, rfl⟩
      · simpa [IceLoop.refreshTick] using hpending
  | advance seconds =>
      obtain rfl := Option.some.inj hstep
      exact hproper.of_keeps (keeps_of_eq rfl rfl (fun _ _ hpending => hpending)
        (List.Subset.refl _)) hproper.selfEp hproper.known fun _ hout => Or.inl hout
  | expire position =>
      obtain ⟨io, hexpire, rfl⟩ := Option.map_eq_some_iff.mp hstep
      have hpending := IoContext.pending_expire hexpire
      have hsent : io.sent = loop.io.sent := by
        obtain ⟨wait, -, rfl⟩ := IoContext.expire_eq_some hexpire
        rfl
      exact hproper.of_keeps (keeps_of_eq rfl rfl (fun _ _ hmem => hpending ▸ hmem)
        (List.Subset.refl _)) hproper.selfEp hproper.known fun _ hout => Or.inl (hsent ▸ hout)
  | run position =>
      obtain ⟨⟨callback, io⟩, htake, hrun⟩ := Option.bind_eq_some_iff.mp hstep
      have hpending := IoContext.pending_take htake
      have hsent : io.sent = loop.io.sent := by rw [(IoContext.take_eq_some htake).2]
      have htaken : (({ loop with io := io } : IceLoop).log callback).Proper platform Carried
          Named :=
        hproper.of_keeps (keeps_of_eq rfl rfl
          (fun _ _ hmem => hpending ▸ Multiset.mem_cons_of_mem hmem) (List.Subset.refl _))
            hproper.selfEp hproper.known fun _ hout => Or.inl (hsent ▸ hout)
      refine htaken.ran (fun id ep heq => hproper.handlers id ep ?_) (ran_of_runCallback hrun)
      rw [hpending, ← heq]
      exact Multiset.mem_cons_self _ _

/-! ## What the agent fails on -/

theorem encode_injective {iceMsg other : IceMessage} (heq : iceMsg.encode = other.encode) :
    iceMsg = other := by
  cases iceMsg
  cases other
  exact congrArg IceMessage.mk (Json.object.inj heq)

/-- Only a STUN message can echo a binding. -/
theorem not_echoesBinding_of_signaling {loop : IceLoop} {msg : Message} {iceMsg : IceMessage}
    {id : Uuid} (hpart : msg.getParam "ice_agent" = some iceMsg.encode)
    (hsound : iceMsg.SoundSignaling platform id) : ¬ loop.EchoesBinding platform msg := by
  rintro ⟨other, otherId, hother, hstun, -⟩
  obtain rfl := encode_injective (Option.some.inj (hpart.symm.trans hother))
  have hprotocol := hsound.getProtocol.symm.trans hstun.getProtocol
  cases hprotocol

theorem isOk_incomeMessage_of_sound (hreads : platform.ReadsBack) {iceMsg : IceMessage}
    {id : Uuid} (hsound : iceMsg.SoundSignaling platform id) (obs : SignalingRequest)
    (selfEp : Endpoint) (io : IoContext) :
    (obs.incomeMessage platform selfEp io iceMsg).isOk = true := by
  obtain ⟨code, hcode⟩ := hsound.getSubProtocol
  obtain ⟨destEp, -, hdest⟩ := IceMessage.getEndpoint_of_names hreads hsound.dest
  have hdestRead : iceMsg.getDestEndpoint platform = .ok destEp := hdest
  simp only [SignalingRequest.incomeMessage, hcode, hdestRead, Fallible.ok_bind]
  split_ifs
  all_goals rfl

theorem isOk_incomeSignaling_of_sound (hreads : platform.ReadsBack)
    (hshort : platform.ShortTexts) {loop : IceLoop} (hproper : loop.Proper platform Carried Named)
    {iceMsg : IceMessage} {id : Uuid} (hsound : iceMsg.SoundSignaling platform id)
    (drawn : Uuid) :
    (loop.agent.incomeSignaling platform loop.table loop.io drawn iceMsg).isOk = true := by
  rw [IceAgent.incomeSignaling, IceMessage.getObserverId_of_get hreads hsound.observerId,
    Fallible.ok_bind]
  cases loop.agent.obsStrage.signalingReceiver id with
  | relay obs => rfl
  | response obs => rfl
  | request obs =>
      simp only
      rw [Fallible.isOk_bind_of_forall fun _ => rfl]
      exact isOk_incomeMessage_of_sound hreads hsound obs loop.agent.selfEp loop.io
  | server =>
      obtain ⟨strage, copy, eps, hhandled, -⟩ :=
        SignalingServer.exists_sent_of_sound hreads hshort hsound
          (hproper.v4 _ hproper.selfEp) hproper.known
          loop.agent.obsStrage loop.io drawn
      simp only [hhandled]
      rfl

/-- A STUN message is handled unless it asks under an id that is waited for. -/
theorem isOk_incomeStun_iff_of_sound (hreads : platform.ReadsBack) (loop : IceLoop)
    {iceMsg : IceMessage} {p : StunSubProtocol} {id : Uuid}
    (hsound : iceMsg.SoundStun platform p id) (ep : Endpoint) :
    (loop.agent.incomeStun platform loop.io iceMsg ep).isOk = true ↔
      ¬ (p = .bindingRequest ∧ (loop.strage.bindings.find id).isSome) := by
  rw [IceAgent.incomeStun, IceMessage.getObserverId_of_get hreads hsound.observerId,
    Fallible.ok_bind]
  cases hfind : loop.strage.bindings.find id with
  | none =>
      have hnone : loop.agent.obsStrage.bindings.find id = none := hfind
      simp only [hnone, StunServer.incomeMessage_of_sound hsound, Fallible.ok_bind]
      simp
  | some obs =>
      have hsome : loop.agent.obsStrage.bindings.find id = some obs := hfind
      simp only [hsome]
      cases p with
      | bindingRequest =>
          rw [IceMessage.getGlobalEp, IceMessage.getEndpoint, hsound.unanswered rfl]
          simp [Json.getString]
      | bindingResponse =>
          obtain ⟨globalEp, -, hread⟩ :=
            IceMessage.getEndpoint_of_names hreads (hsound.globalEp rfl)
          rw [IceMessage.getGlobalEp, hread]
          simp

/-- The agent fails on a message of another node exactly when the message asks for a
binding under an id that the agent waits for itself. -/
theorem receive_eq_none_iff (hreads : platform.ReadsBack) (hshort : platform.ShortTexts)
    {loop : IceLoop} (hproper : loop.Proper platform Carried Named) {msg : Message}
    (hsound : IceMessage.SoundPart platform msg) (drawn : Uuid) (ep : Endpoint) :
    loop.receive platform drawn msg ep = none ↔ loop.EchoesBinding platform msg := by
  have hfails : loop.receive platform drawn msg ep = none ↔
      ¬ (loop.agent.incomeMessage platform loop.table loop.io drawn msg ep).isOk = true := by
    rw [receive]
    cases loop.agent.incomeMessage platform loop.table loop.io drawn msg ep with
    | error fault => simp
    | ok result => simp
  rw [hfails]
  cases hpart : msg.getParam "ice_agent" with
  | none =>
      refine iff_of_false ?_ ?_
      · rw [IceAgent.incomeMessage, hpart, not_not]
        rfl
      · rintro ⟨iceMsg, id, hother, -⟩
        rw [hpart] at hother
        cases hother
  | some part =>
      obtain ⟨iceMsg, rfl, hkind⟩ := hsound part hpart
      have hofJson : IceMessage.ofJson iceMsg.encode = .ok iceMsg := rfl
      rcases hkind with ⟨id, hsignaling⟩ | ⟨p, id, hstun⟩
      · refine iff_of_false ?_ (not_echoesBinding_of_signaling hpart hsignaling)
        rw [not_not]
        simp only [IceAgent.incomeMessage, hpart, hofJson, Fallible.ok_bind,
          hsignaling.getProtocol]
        rw [Fallible.isOk_bind_of_forall fun _ => rfl]
        exact isOk_incomeSignaling_of_sound hreads hshort hproper hsignaling drawn
      · have hhandled : (loop.agent.incomeMessage platform loop.table loop.io drawn msg ep).isOk =
            (loop.agent.incomeStun platform loop.io iceMsg ep).isOk := by
          simp only [IceAgent.incomeMessage, hpart, hofJson, Fallible.ok_bind, hstun.getProtocol]
          exact Fallible.isOk_bind_of_forall fun _ => rfl
        rw [hhandled, isOk_incomeStun_iff_of_sound hreads loop hstun ep, not_not]
        constructor
        · rintro ⟨rfl, hstored⟩
          exact ⟨iceMsg, id, hpart, hstun, hstored⟩
        · rintro ⟨other, otherId, hother, hrequest, hstored⟩
          obtain rfl := encode_injective (Option.some.inj (hpart.symm.trans hother))
          have hcode := hstun.getSubProtocol.symm.trans hrequest.getSubProtocol
          have hid := (IceMessage.getObserverId_of_get hreads hstun.observerId).symm.trans
            (IceMessage.getObserverId_of_get hreads hrequest.observerId)
          obtain rfl := Except.ok.inj hid
          refine ⟨?_, hstored⟩
          cases p with
          | bindingRequest => rfl
          | bindingResponse => cases hcode

end IceLoop

end SsP2p.Ice

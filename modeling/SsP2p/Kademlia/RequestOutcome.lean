import SsP2p.Core.HostPlatform
import SsP2p.Kademlia.DhtLoop

/-!
# One outcome for each request

What a request has led to so far is counted over the calls already made and over
the callbacks still to be run.  A ping has at most one pong or timeout, and a
find_node the endpoints of at most one response, as long as no message reaches
an observer that was already answered or timed out.
-/

namespace SsP2p

namespace Callback

def outcome : Callback → Option Uuid
  | pongHandler id | timeoutHandler id => some id
  | _ => none

def timer : Callback → Option Uuid
  | pingTimeout id => some id
  | _ => none

/-- The find_node that a posted handler belongs to, with its endpoint. -/
def answer : Callback → Option (Uuid × Endpoint)
  | responseHandler id ep => some (id, ep)
  | _ => none

end Callback

namespace Kademlia

namespace Invocation

def outcome : Invocation → Option Uuid
  | pong id _ | timeout id _ => some id
  | _ => none

/-- The find_node that a call belongs to, with its endpoint. -/
def answer : Invocation → Option (Uuid × Endpoint)
  | response id ep => some (id, ep)
  | _ => none

end Invocation

/-- An observer that was neither answered nor timed out. -/
def DhtManager.Receiver.isOpen : DhtManager.Receiver → Bool
  | .ping obs => obs.base.expireAt ≠ 0
  | .findNode obs => obs.base.expireAt ≠ 0
  | .rpcManager => true

namespace DhtLoop

section Calls

variable {loop : DhtLoop} {callback : Callback} {invocation : Invocation} {handler : Handler}
  {ep : Endpoint}

theorem Calls.outcome_eq (hcalls : loop.Calls callback invocation handler ep) :
    invocation.outcome = callback.outcome := by
  cases hcalls with
  | _ => rfl

theorem Calls.answer_eq (hcalls : loop.Calls callback invocation handler ep) :
    invocation.answer = callback.answer := by
  cases hcalls with
  | _ => rfl

end Calls

variable (platform : Platform)

/-- The endpoints that the response handler of a find_node was called with. -/
def responsesTo (loop : DhtLoop) (id : Uuid) : List Endpoint :=
  (loop.invoked.filterMap Invocation.answer).filterMap fun answer =>
    if answer.1 = id then some answer.2 else none

/-- At most one of the two handlers of a ping is called, and that once; the
response handler of a find_node is called for endpoints of one response. -/
structure OneOutcome (loop : DhtLoop) : Prop where
  ping : ∀ id, (loop.invoked.filterMap Invocation.outcome).count id ≤ 1
  findNode : ∀ id, loop.responsesTo id = [] ∨ ∃ msg ∈ loop.received, ∃ findedEps,
    DhtManager.CarriesAnswer platform msg id findedEps ∧
      (loop.responsesTo id).Subperm findedEps

/-- A message reaches no observer that was already answered or timed out. -/
def ReachesOpen (loop : DhtLoop) : Event → Prop
  | .receive msg _ =>
      (loop.manager.receiver platform msg).all DhtManager.Receiver.isOpen = true
  | _ => True

instance (loop : DhtLoop) : ∀ event, Decidable (loop.ReachesOpen platform event)
  | .receive _ _ => inferInstanceAs (Decidable (_ = true))
  | .pingRequest _ _ _ _ | .findNodeRequest _ _ _ _ | .updateGlobalSelfEndpoint _
  | .advance _ | .expire _ | .run _ _ => .isTrue trivial

/-! ## The outcomes made and still to come -/

def outcomes (loop : DhtLoop) : Multiset Uuid :=
  (loop.invoked.filterMap Invocation.outcome : List Uuid) +
    loop.io.pending.filterMap Callback.outcome

/-- The pings whose timer has not been handled. -/
def timers (loop : DhtLoop) : Multiset Uuid :=
  loop.io.pending.filterMap Callback.timer

def answers (loop : DhtLoop) : Multiset (Uuid × Endpoint) :=
  (loop.invoked.filterMap Invocation.answer : List (Uuid × Endpoint)) +
    loop.io.pending.filterMap Callback.answer

def answersTo (loop : DhtLoop) (id : Uuid) : Multiset Endpoint :=
  loop.answers.filterMap fun answer => if answer.1 = id then some answer.2 else none

/-- An id that was never drawn has left no trace. -/
structure Unused (loop : DhtLoop) (id : Uuid) : Prop where
  ping : loop.strage.pings.find id = none
  findNode : loop.strage.findNodes.find id = none
  outcomes : id ∉ loop.outcomes
  timers : id ∉ loop.timers
  answers : loop.answersTo id = 0

structure SoundAt (loop : DhtLoop) (id : Uuid) : Prop where
  once : loop.outcomes.count id ≤ 1
  timer : loop.timers.count id ≤ 1
  pingOpen : ∀ obs, loop.strage.pings.find id = some obs →
    obs.base.expireAt ≠ 0 → id ∉ loop.outcomes
  waiting : ∀ obs, loop.strage.pings.find id = some obs →
    obs.isPongArrived = false → id ∈ loop.timers → id ∉ loop.outcomes
  answered : loop.answersTo id = 0 ∨ ∃ msg ∈ loop.received, ∃ findedEps,
    DhtManager.CarriesAnswer platform msg id findedEps ∧
      loop.answersTo id = (findedEps : Multiset Endpoint)
  findNodeOpen : ∀ obs, loop.strage.findNodes.find id = some obs →
    obs.base.expireAt ≠ 0 → loop.answersTo id = 0
  unused : id ∉ loop.issued → loop.Unused id

def Sound (loop : DhtLoop) : Prop := ∀ id, loop.SoundAt platform id

/-- Observers at most disappear, timers are at most handled, and nothing new is
decided or found. -/
structure Calm (loop next : DhtLoop) : Prop where
  pings : ∀ id obs, next.strage.pings.find id = some obs →
    loop.strage.pings.find id = some obs
  findNodes : ∀ id obs, next.strage.findNodes.find id = some obs →
    loop.strage.findNodes.find id = some obs
  outcomes : next.outcomes = loop.outcomes
  timers : next.timers ≤ loop.timers
  answers : next.answers = loop.answers
  issued : next.issued = loop.issued
  received : loop.received ⊆ next.received

variable {platform}

theorem Calm.sound {loop next : DhtLoop} (hcalm : loop.Calm next)
    (hsound : loop.Sound platform) : next.Sound platform := by
  intro id
  obtain ⟨honce, htimer, hopen, hwaiting, hanswered, hfindOpen, hunused⟩ := hsound id
  have hanswers : next.answersTo id = loop.answersTo id := by
    rw [answersTo, hcalm.answers, answersTo]
  refine ⟨?_, ?_, ?_, ?_, ?_, ?_, ?_⟩
  · rw [hcalm.outcomes]
    exact honce
  · exact (Multiset.count_le_of_le id hcalm.timers).trans htimer
  · intro obs hfind hexpire
    rw [hcalm.outcomes]
    exact hopen obs (hcalm.pings id obs hfind) hexpire
  · intro obs hfind harrived hmem
    rw [hcalm.outcomes]
    exact hwaiting obs (hcalm.pings id obs hfind) harrived
      (Multiset.mem_of_le hcalm.timers hmem)
  · rw [hanswers]
    exact hanswered.imp_right fun ⟨msg, hmsg, hcarries⟩ =>
      ⟨msg, hcalm.received hmsg, hcarries⟩
  · intro obs hfind hexpire
    rw [hanswers]
    exact hfindOpen obs (hcalm.findNodes id obs hfind) hexpire
  · intro hissued
    rw [hcalm.issued] at hissued
    obtain ⟨hping, hfindNode, houtcomes, htimers, hanswersNone⟩ := hunused hissued
    refine ⟨?_, ?_, ?_, ?_, ?_⟩
    · refine Option.eq_none_iff_forall_ne_some.mpr fun obs hfind => ?_
      rw [hcalm.pings id obs hfind] at hping
      cases hping
    · refine Option.eq_none_iff_forall_ne_some.mpr fun obs hfind => ?_
      rw [hcalm.findNodes id obs hfind] at hfindNode
      cases hfindNode
    · rw [hcalm.outcomes]
      exact houtcomes
    · exact fun hmem => htimers (Multiset.mem_of_le hcalm.timers hmem)
    · rw [hanswers]
      exact hanswersNone

/-- The observers and the queues are the same. -/
theorem calm_of_pending_eq {loop next : DhtLoop}
    (hstrage : next.strage = loop.strage)
    (hpending : next.io.pending = loop.io.pending)
    (hinvoked : next.invoked = loop.invoked) (hissued : next.issued = loop.issued)
    (hreceived : loop.received ⊆ next.received) : loop.Calm next where
  pings id obs hfind := hstrage ▸ hfind
  findNodes id obs hfind := hstrage ▸ hfind
  outcomes := by rw [outcomes, outcomes, hpending, hinvoked]
  timers := by rw [timers, timers, hpending]
  answers := by rw [answers, answers, hpending, hinvoked]
  issued := hissued
  received := hreceived

theorem sound_of_pending_eq {loop next : DhtLoop} (hsound : loop.Sound platform)
    (hstrage : next.strage = loop.strage)
    (hpending : next.io.pending = loop.io.pending)
    (hinvoked : next.invoked = loop.invoked) (hissued : next.issued = loop.issued)
    (hreceived : loop.received ⊆ next.received) : next.Sound platform :=
  (calm_of_pending_eq hstrage hpending hinvoked hissued hreceived).sound hsound

/-! ## One step -/

theorem find_addPing {strage : KObserverStrage} (obs : Ping)
    (hfresh : strage.pings.find obs.id = none) (id : Uuid) :
    (strage.addPing obs).pings.find id =
      if obs.id = id then some obs else strage.pings.find id :=
  KeyedList.find_insert hfresh id

theorem find_addFindNode {strage : KObserverStrage} (obs : FindNode)
    (hfresh : strage.findNodes.find obs.id = none) (id : Uuid) :
    (strage.addFindNode obs).findNodes.find id =
      if obs.id = id then some obs else strage.findNodes.find id :=
  KeyedList.find_insert hfresh id

theorem sound_pingRequest {loop next : DhtLoop} {newId : Uuid} {ep : Endpoint}
    {pongHandler timeoutHandler : Handler} (hsound : loop.Sound platform)
    (hrequest : loop.pingRequest platform newId ep pongHandler timeoutHandler =
      some next) : next.Sound platform := by
  obtain ⟨hissued, payload, hnext⟩ := pingRequest_eq_some platform hrequest
  have hnew := (hsound newId).unused hissued
  have hfind : ∀ id, next.strage.pings.find id =
      if newId = id then some (loop.startedPing newId ep pongHandler timeoutHandler)
      else loop.strage.pings.find id := by
    rw [hnext]
    exact find_addPing (loop.startedPing newId ep pongHandler timeoutHandler) hnew.ping
  have houtcomes : next.outcomes = loop.outcomes := by
    rw [hnext]
    simp [outcomes, Callback.outcome, Multiset.filterMap_cons, withStrage]
  have htimers : next.timers = newId ::ₘ loop.timers := by
    rw [hnext]
    simp [timers, Callback.timer]
  have hanswers : ∀ id, next.answersTo id = loop.answersTo id := by
    rw [hnext]
    simp [answersTo, answers, Callback.answer, Multiset.filterMap_cons, withStrage]
  have hfindNodes : next.strage.findNodes = loop.strage.findNodes := by rw [hnext]; rfl
  have hreceived : next.received = loop.received := by rw [hnext]; rfl
  have hissuedNext : next.issued = newId :: loop.issued := by rw [hnext]
  intro id
  obtain ⟨honce, htimer, hopen, hwaiting, hanswered, hfindOpen, hunused⟩ := hsound id
  refine ⟨houtcomes ▸ honce, ?_, ?_, ?_, ?_, ?_, ?_⟩
  · rw [htimers]
    by_cases hid : id = newId
    · subst hid
      rw [Multiset.count_cons_self, Multiset.count_eq_zero_of_notMem hnew.timers]
    · rw [Multiset.count_cons_of_ne hid]
      exact htimer
  · intro obs hobs hexpire
    rw [houtcomes]
    by_cases hid : newId = id
    · exact hid ▸ hnew.outcomes
    · rw [hfind, if_neg hid] at hobs
      exact hopen obs hobs hexpire
  · intro obs hobs harrived hmem
    rw [houtcomes]
    by_cases hid : newId = id
    · exact hid ▸ hnew.outcomes
    · rw [hfind, if_neg hid] at hobs
      rw [htimers, Multiset.mem_cons] at hmem
      exact hwaiting obs hobs harrived (hmem.resolve_left (Ne.symm hid))
  · rw [hanswers, hreceived]
    exact hanswered
  · rw [hanswers, hfindNodes]
    exact hfindOpen
  · intro hnotIssued
    rw [hissuedNext, List.mem_cons, not_or] at hnotIssued
    obtain ⟨hping, hfindNode, hnoOutcome, hnoTimer, hnoAnswer⟩ := hunused hnotIssued.2
    have hid : newId ≠ id := Ne.symm hnotIssued.1
    refine ⟨by rw [hfind, if_neg hid, hping], by rw [hfindNodes, hfindNode],
      by rwa [houtcomes], ?_, by rw [hanswers, hnoAnswer]⟩
    rw [htimers, Multiset.mem_cons, not_or]
    exact ⟨hnotIssued.1, hnoTimer⟩

theorem sound_findNodeRequest {loop next : DhtLoop} {newId : Uuid} {ep : Endpoint}
    {ignoreEps : List Endpoint} {responseHandler : Handler}
    (hsound : loop.Sound platform)
    (hrequest : loop.findNodeRequest platform newId ep ignoreEps responseHandler =
      some next) : next.Sound platform := by
  obtain ⟨hissued, payload, hnext⟩ := findNodeRequest_eq_some platform hrequest
  have hnew := (hsound newId).unused hissued
  have hfind : ∀ id, next.strage.findNodes.find id =
      if newId = id then some (FindNode.make newId loop.io.now responseHandler)
      else loop.strage.findNodes.find id := by
    rw [hnext]
    exact find_addFindNode (FindNode.make newId loop.io.now responseHandler)
      hnew.findNode
  have houtcomes : next.outcomes = loop.outcomes := by rw [hnext]; rfl
  have htimers : next.timers = loop.timers := by rw [hnext]; rfl
  have hanswers : ∀ id, next.answersTo id = loop.answersTo id := by
    rw [hnext]
    exact fun _ => rfl
  have hpings : next.strage.pings = loop.strage.pings := by rw [hnext]; rfl
  have hreceived : next.received = loop.received := by rw [hnext]; rfl
  have hissuedNext : next.issued = newId :: loop.issued := by rw [hnext]
  intro id
  obtain ⟨honce, htimer, hopen, hwaiting, hanswered, hfindOpen, hunused⟩ := hsound id
  refine ⟨houtcomes ▸ honce, htimers ▸ htimer, ?_, ?_, ?_, ?_, ?_⟩
  · rw [hpings, houtcomes]
    exact hopen
  · rw [hpings, houtcomes, htimers]
    exact hwaiting
  · rw [hanswers, hreceived]
    exact hanswered
  · intro obs hobs hexpire
    rw [hanswers]
    by_cases hid : newId = id
    · exact hid ▸ hnew.answers
    · rw [hfind, if_neg hid] at hobs
      exact hfindOpen obs hobs hexpire
  · intro hnotIssued
    rw [hissuedNext, List.mem_cons, not_or] at hnotIssued
    obtain ⟨hping, hfindNode, hnoOutcome, hnoTimer, hnoAnswer⟩ := hunused hnotIssued.2
    have hid : newId ≠ id := Ne.symm hnotIssued.1
    exact ⟨by rw [hpings, hping], by rw [hfind, if_neg hid, hfindNode],
      by rwa [houtcomes], by rwa [htimers], by rw [hanswers, hnoAnswer]⟩

theorem sound_invoke {loop next : DhtLoop} {handler : Handler} {ep : Endpoint}
    {id : Uuid} (hsound : loop.Sound platform)
    (hinvoke : loop.invoke platform handler ep id = some next) :
    next.Sound platform := by
  rcases invoke_eq_some platform hinvoke with ⟨table, rfl, -, -⟩ | hrequest
  · exact sound_of_pending_eq hsound rfl rfl rfl rfl (List.Subset.refl _)
  · exact sound_pingRequest hsound hrequest

/-- A callback that waited is taken and, when it calls a handler, the call is
noted: the outcome or the endpoint moves from one side to the other. -/
theorem calm_log {loop : DhtLoop} {io : IoContext} {position : ℕ}
    {callback : Callback} {invocation : Invocation}
    (htake : loop.io.take position = some (callback, io))
    (houtcome : invocation.outcome = callback.outcome)
    (hanswer : invocation.answer = callback.answer) :
    loop.Calm (({ loop with io := io } : DhtLoop).log invocation) := by
  have hpending := IoContext.pending_take htake
  refine ⟨fun _ _ hfind => hfind, fun _ _ hfind => hfind, ?_, ?_, ?_, rfl,
    List.Subset.refl _⟩
  · simp only [outcomes, hpending, log, List.filterMap_append, List.filterMap_cons,
      List.filterMap_nil, houtcome, Multiset.filterMap_cons]
    cases callback.outcome with
    | none => simp
    | some id =>
        simp only [Option.map_some, Option.getD_some, ← Multiset.coe_add,
          Multiset.coe_singleton]
        rw [add_assoc]
  · rw [timers, timers, hpending]
    exact Multiset.filterMap_le_filterMap _ (Multiset.le_cons_self _ _)
  · simp only [answers, hpending, log, List.filterMap_append, List.filterMap_cons,
      List.filterMap_nil, hanswer, Multiset.filterMap_cons]
    cases callback.answer with
    | none => simp
    | some found =>
        simp only [Option.map_some, Option.getD_some, ← Multiset.coe_add,
          Multiset.coe_singleton]
        rw [add_assoc]

/-- A ping that was open is decided, and its observer is closed. -/
theorem sound_decide {loop next : DhtLoop} {obs : Ping} (closed : Ping)
    (hsound : loop.Sound platform)
    (hobs : loop.strage.pings.find obs.id = some obs)
    (hopen : obs.id ∉ loop.outcomes)
    (hfind : ∀ id, next.strage.pings.find id =
      if id = obs.id then some closed else loop.strage.pings.find id)
    (hclosed : closed.base.expireAt = 0)
    (hdone : closed.isPongArrived = false → obs.id ∉ next.timers)
    (houtcomes : next.outcomes = obs.id ::ₘ loop.outcomes)
    (htimers : next.timers ≤ loop.timers) (hanswers : next.answers = loop.answers)
    (hfindNodes : next.strage.findNodes = loop.strage.findNodes)
    (hissued : next.issued = loop.issued) (hreceived : loop.received ⊆ next.received) :
    next.Sound platform := by
  have hanswersTo : ∀ id, next.answersTo id = loop.answersTo id := fun id => by
    rw [answersTo, hanswers, answersTo]
  intro id
  obtain ⟨honce, htimer, hopenAt, hwaiting, hanswered, hfindOpen, hunused⟩ := hsound id
  refine ⟨?_, (Multiset.count_le_of_le id htimers).trans htimer, ?_, ?_, ?_, ?_, ?_⟩
  · rw [houtcomes]
    by_cases hid : id = obs.id
    · rw [hid, Multiset.count_cons_self, Multiset.count_eq_zero_of_notMem hopen]
    · rw [Multiset.count_cons_of_ne hid]
      exact honce
  · intro found hfound hexpire
    rw [hfind] at hfound
    split_ifs at hfound with hid
    · obtain rfl := Option.some.inj hfound
      exact absurd hclosed hexpire
    · rw [houtcomes, Multiset.mem_cons, not_or]
      exact ⟨hid, hopenAt found hfound hexpire⟩
  · intro found hfound harrived hmem
    rw [hfind] at hfound
    split_ifs at hfound with hid
    · obtain rfl := Option.some.inj hfound
      exact absurd (hid ▸ hmem) (hdone harrived)
    · rw [houtcomes, Multiset.mem_cons, not_or]
      exact ⟨hid, hwaiting found hfound harrived (Multiset.mem_of_le htimers hmem)⟩
  · rw [hanswersTo]
    apply hanswered.imp_right
    intro hcarried
    obtain ⟨msg, hmsg, hcarries⟩ := hcarried
    exact ⟨msg, hreceived hmsg, hcarries⟩
  · rw [hanswersTo, hfindNodes]
    exact hfindOpen
  · intro hnotIssued
    rw [hissued] at hnotIssued
    obtain ⟨hping, hfindNode, hnoOutcome, hnoTimer, hnoAnswer⟩ := hunused hnotIssued
    have hid : id ≠ obs.id := by
      rintro rfl
      rw [hobs] at hping
      cases hping
    refine ⟨by rw [hfind, if_neg hid, hping], by rw [hfindNodes, hfindNode], ?_,
      fun hmem => hnoTimer (Multiset.mem_of_le htimers hmem),
      by rw [hanswersTo, hnoAnswer]⟩
    rw [houtcomes, Multiset.mem_cons, not_or]
    exact ⟨hid, hnoOutcome⟩

/-- A find_node that was open gets the endpoints of one response. -/
theorem sound_answer {loop next : DhtLoop} {obs : FindNode} {msg : Message}
    {findedEps : List Endpoint} (hsound : loop.Sound platform)
    (hobs : loop.strage.findNodes.find obs.id = some obs)
    (hexpire : obs.base.expireAt ≠ 0)
    (hfind : ∀ id, next.strage.findNodes.find id =
      if id = obs.id then some obs.answered else loop.strage.findNodes.find id)
    (houtcomes : next.outcomes = loop.outcomes) (htimers : next.timers = loop.timers)
    (hanswers : next.answers =
      (findedEps.map (obs.id, ·) : List (Uuid × Endpoint)) + loop.answers)
    (hpings : next.strage.pings = loop.strage.pings)
    (hissued : next.issued = loop.issued) (hreceived : loop.received ⊆ next.received)
    (hmsg : msg ∈ next.received)
    (hcarries : DhtManager.CarriesAnswer platform msg obs.id findedEps) :
    next.Sound platform := by
  have hnone : loop.answersTo obs.id = 0 := (hsound obs.id).findNodeOpen obs hobs hexpire
  have hself : next.answersTo obs.id = (findedEps : Multiset Endpoint) := by
    rw [answersTo, hanswers, Multiset.filterMap_add, ← answersTo, hnone, add_zero,
      Multiset.filterMap_coe, List.filterMap_map]
    congr 1
    simp
  have hother : ∀ id, id ≠ obs.id → next.answersTo id = loop.answersTo id := by
    intro id hid
    rw [answersTo, hanswers, Multiset.filterMap_add, ← answersTo,
      Multiset.filterMap_coe, List.filterMap_map]
    simp [Ne.symm hid]
  intro id
  obtain ⟨honce, htimer, hopenAt, hwaiting, hanswered, hfindOpen, hunused⟩ := hsound id
  refine ⟨houtcomes ▸ honce, htimers ▸ htimer, ?_, ?_, ?_, ?_, ?_⟩
  · rw [hpings, houtcomes]
    exact hopenAt
  · rw [hpings, houtcomes, htimers]
    exact hwaiting
  · by_cases hid : id = obs.id
    · subst hid
      exact Or.inr ⟨msg, hmsg, findedEps, hcarries, hself⟩
    · rw [hother id hid]
      exact hanswered.imp_right fun ⟨old, hold, hcarriesOld⟩ =>
        ⟨old, hreceived hold, hcarriesOld⟩
  · intro found hfound hexpireFound
    rw [hfind] at hfound
    split_ifs at hfound with hid
    · obtain rfl := Option.some.inj hfound
      exact absurd rfl hexpireFound
    · rw [hother id hid]
      exact hfindOpen found hfound hexpireFound
  · intro hnotIssued
    rw [hissued] at hnotIssued
    obtain ⟨hping, hfindNode, hnoOutcome, hnoTimer, hnoAnswer⟩ := hunused hnotIssued
    have hid : id ≠ obs.id := by
      rintro rfl
      rw [hobs] at hfindNode
      cases hfindNode
    exact ⟨by rw [hpings, hping], by rw [hfind, if_neg hid, hfindNode],
      by rwa [houtcomes], by rwa [htimers], by rw [hother id hid, hnoAnswer]⟩

/-- `ping::timeout`, on a timer that was just taken from the queue. -/
theorem sound_timeout {loop : DhtLoop} {io : IoContext} {position : ℕ} {obs : Ping}
    (hsound : loop.Sound platform)
    (htake : loop.io.take position = some (.pingTimeout obs.id, io))
    (hobs : loop.strage.pings.find obs.id = some obs) :
    (({ loop with io := io } : DhtLoop).timeout obs).Sound platform := by
  have hpending := IoContext.pending_take htake
  have htimers : loop.timers = obs.id ::ₘ io.pending.filterMap Callback.timer := by
    rw [timers, hpending]
    exact Multiset.filterMap_cons_some _ _ _ rfl
  have houtcomes : io.pending.filterMap Callback.outcome =
      loop.io.pending.filterMap Callback.outcome := by
    rw [hpending]
    exact (Multiset.filterMap_cons_none _ _ rfl).symm
  have hanswers : io.pending.filterMap Callback.answer =
      loop.io.pending.filterMap Callback.answer := by
    rw [hpending]
    exact (Multiset.filterMap_cons_none _ _ rfl).symm
  have htimersLe : io.pending.filterMap Callback.timer ≤ loop.timers :=
    htimers ▸ Multiset.le_cons_self _ _
  unfold timeout
  split_ifs with harrived
  · have hcalm : loop.Calm { loop with io := io } :=
      ⟨fun _ _ hfind => hfind, fun _ _ hfind => hfind,
        by rw [outcomes, houtcomes, outcomes], htimersLe,
        by rw [answers, hanswers, answers], rfl, List.Subset.refl _⟩
    exact hcalm.sound hsound
  · have htimer := (hsound obs.id).timer
    rw [htimers, Multiset.count_cons_self] at htimer
    refine sound_decide obs.timedOut hsound hobs ?_ ?_ rfl ?_ ?_ ?_ ?_ rfl rfl
      (List.Subset.refl _)
    · exact (hsound obs.id).waiting obs hobs (by simpa using harrived)
        (htimers ▸ Multiset.mem_cons_self _ _)
    · exact KeyedList.find_modify_of_find hobs Ping.timedOut Ping.id_timedOut
    · intro _
      simp only [timers, IoContext.pending_post]
      rw [Multiset.filterMap_cons_none _ _ rfl]
      exact Multiset.count_eq_zero.mp (by omega)
    · simp only [outcomes, IoContext.pending_post, withStrage]
      rw [Multiset.filterMap_cons_some Callback.outcome (.timeoutHandler obs.id) _ rfl,
        Multiset.add_cons, houtcomes]
    · simp only [timers, IoContext.pending_post]
      rw [Multiset.filterMap_cons_none _ _ rfl]
      exact htimersLe
    · simp only [answers, IoContext.pending_post, withStrage]
      rw [Multiset.filterMap_cons_none _ _ rfl, hanswers]

theorem sound_refreshTick {loop : DhtLoop} {io : IoContext} {position : ℕ}
    (hsound : loop.Sound platform)
    (htake : loop.io.take position = some (.refreshTick, io)) :
    ({ loop with io := io } : DhtLoop).refreshTick.Sound platform := by
  have hpending := IoContext.pending_take htake
  have hcalm : loop.Calm ({ loop with io := io } : DhtLoop).refreshTick := by
    refine ⟨fun id obs hfind => KeyedList.find_of_find_filter hfind,
      fun id obs hfind => KeyedList.find_of_find_filter hfind, ?_, ?_, ?_, rfl,
      List.Subset.refl _⟩
    · simp [outcomes, refreshTick, hpending, withStrage]
    · simp [timers, refreshTick, hpending]
    · simp [answers, refreshTick, hpending, withStrage]
  exact hcalm.sound hsound

theorem sound_runCallback {loop next : DhtLoop} {io : IoContext} {position : ℕ}
    {id : Uuid} {callback : Callback} (hsound : loop.Sound platform)
    (htake : loop.io.take position = some (callback, io))
    (hrun : runCallback platform { loop with io := io } id callback = some next) :
    next.Sound platform := by
  rcases runCallback_cases platform hrun with
    ⟨obsId, obs, rfl, hobs, rfl⟩ | ⟨invocation, handler, ep, hcalls, hinvoke⟩ | ⟨rfl, rfl⟩
  · obtain rfl : obs.id = obsId := KeyedList.key_of_find hobs
    exact sound_timeout hsound htake hobs
  · have hlogged := calm_log htake hcalls.outcome_eq hcalls.answer_eq
    exact sound_invoke (hlogged.sound hsound) hinvoke
  · exact sound_refreshTick hsound htake

/-- A message that reaches an open observer, or none. -/
theorem sound_receive {loop : DhtLoop} {manager : DhtManager} {io : IoContext}
    {msg : Message} {ep : Endpoint} (hsound : loop.Sound platform)
    (hopen : loop.ReachesOpen platform (.receive msg ep))
    (hincome : loop.manager.incomeMessage platform loop.io msg ep =
      .ok (manager, io)) :
    ({ loop with
      manager := manager, io := io, received := loop.received ++ [msg] } :
        DhtLoop).Sound platform := by
  have hreceived : loop.received ⊆ loop.received ++ [msg] :=
    List.subset_append_left _ _
  rcases DhtManager.incomeMessage_cases hincome with
    ⟨obs, hreceiver, hobs, rfl, rfl⟩ |
    ⟨obs, findedEps, hreceiver, hobs, hcarries, rfl, rfl⟩ | ⟨table, rfl, hanswers⟩
  · rw [ReachesOpen, hreceiver] at hopen
    have hexpire : obs.base.expireAt ≠ 0 := of_decide_eq_true hopen
    refine sound_decide obs.answered hsound hobs
      ((hsound obs.id).pingOpen obs hobs hexpire) ?_ rfl ?_ ?_ ?_ ?_ rfl rfl hreceived
    · exact KeyedList.find_modify_of_find hobs Ping.answered Ping.id_answered
    · intro harrived
      cases harrived
    · simp only [outcomes, Ping.incomeMessage, IoContext.pending_cancel,
        IoContext.pending_post]
      rw [Multiset.filterMap_cons_some Callback.outcome (.pongHandler obs.id) _ rfl,
        Multiset.add_cons]
    · simp only [timers, Ping.incomeMessage, IoContext.pending_cancel,
        IoContext.pending_post]
      rw [Multiset.filterMap_cons_none _ _ rfl]
    · simp only [answers, Ping.incomeMessage, IoContext.pending_cancel,
        IoContext.pending_post]
      rw [Multiset.filterMap_cons_none _ _ rfl]
  · rw [ReachesOpen, hreceiver] at hopen
    have hexpire : obs.base.expireAt ≠ 0 := of_decide_eq_true hopen
    refine sound_answer hsound hobs hexpire ?_ ?_ ?_ ?_ rfl rfl hreceived
      (List.mem_append_right _ (List.mem_singleton_self msg)) hcarries
    · exact KeyedList.find_modify_of_find hobs FindNode.answered FindNode.id_answered
    · simp [outcomes, FindNode.pending_postAll, Multiset.filterMap_add,
        Multiset.filterMap_coe, List.filterMap_map, Function.comp_def,
        Callback.outcome]
    · simp [timers, FindNode.pending_postAll, Multiset.filterMap_add,
        Multiset.filterMap_coe, List.filterMap_map, Function.comp_def, Callback.timer]
    · simp only [answers, FindNode.pending_postAll, Multiset.filterMap_add,
        Multiset.filterMap_coe, List.filterMap_map, Function.comp_def,
        Callback.answer, List.filterMap_eq_map']
      rw [add_left_comm]
  · obtain ⟨sent, hsent⟩ := hanswers.sends
    have hpending : io.pending = loop.io.pending := by
      rw [show io = _ from hsent]
      rfl
    exact sound_of_pending_eq hsound rfl hpending rfl rfl hreceived

theorem sound_step {loop next : DhtLoop} {event : Event}
    (hsound : loop.Sound platform) (hopen : loop.ReachesOpen platform event)
    (hstep : loop.step platform event = some next) : next.Sound platform := by
  cases event with
  | pingRequest id ep pongHandler timeoutHandler => exact sound_pingRequest hsound hstep
  | findNodeRequest id ep ignoreEps responseHandler =>
      exact sound_findNodeRequest hsound hstep
  | receive msg ep =>
      obtain ⟨manager, io, hincome, rfl⟩ := receive_eq_some platform hstep
      exact sound_receive hsound hopen hincome
  | updateGlobalSelfEndpoint ep =>
      obtain rfl := Option.some.inj hstep
      exact sound_of_pending_eq hsound rfl rfl rfl rfl (List.Subset.refl _)
  | advance seconds =>
      obtain rfl := Option.some.inj hstep
      exact sound_of_pending_eq hsound rfl rfl rfl rfl (List.Subset.refl _)
  | expire position =>
      obtain ⟨io, hexpire, rfl⟩ := Option.map_eq_some_iff.mp hstep
      exact sound_of_pending_eq hsound rfl (IoContext.pending_expire hexpire) rfl rfl
        (List.Subset.refl _)
  | run position id =>
      obtain ⟨⟨callback, io⟩, htake, hrun⟩ := Option.bind_eq_some_iff.mp hstep
      exact sound_runCallback hsound htake hrun

theorem sound_start (ep : Endpoint) (now : ℕ) :
    (start platform ep now).Sound platform := by
  intro id
  have houtcomes : (start platform ep now).outcomes = 0 := rfl
  have htimers : (start platform ep now).timers = 0 := rfl
  have hanswers : (start platform ep now).answersTo id = 0 := rfl
  refine ⟨by simp [houtcomes], by simp [htimers], ?_, ?_, Or.inl hanswers, ?_, ?_⟩
  · intro obs hfind
    cases hfind
  · intro obs hfind
    cases hfind
  · intro obs hfind
    cases hfind
  · intro _
    exact ⟨rfl, rfl, by simp [houtcomes], by simp [htimers], hanswers⟩

theorem oneOutcome_of_sound {loop : DhtLoop} (hsound : loop.Sound platform) :
    loop.OneOutcome platform where
  ping id := by
    have honce := (hsound id).once
    rw [outcomes, Multiset.count_add, Multiset.coe_count] at honce
    omega
  findNode id := by
    have hle : (loop.responsesTo id : Multiset Endpoint) ≤ loop.answersTo id := by
      rw [answersTo, answers, Multiset.filterMap_add]
      exact Multiset.le_add_right _ _
    rcases (hsound id).answered with hnone | ⟨msg, hmsg, findedEps, hcarries, heq⟩
    · left
      rw [hnone, Multiset.le_zero] at hle
      exact Multiset.coe_eq_zero _ |>.mp hle
    · right
      rw [heq] at hle
      exact ⟨msg, hmsg, findedEps, hcarries, Multiset.coe_le.mp hle⟩

/-- In a run whose messages reach open observers only, every request has at most
one outcome. -/
theorem oneOutcome_of_meets (ep : Endpoint) (now : ℕ) (events : List Event)
    (last : DhtLoop)
    (hmeets : Runs.Meets (step platform) (ReachesOpen platform)
      (start platform ep now) events)
    (hrun : Runs.execute (step platform) (start platform ep now) events = some last) :
    last.OneOutcome platform :=
  oneOutcome_of_sound (Runs.invariant_of_meets (Sound platform)
    (fun _ _ _ hsound hopen hstep => sound_step hsound hopen hstep)
    (sound_start ep now) hmeets hrun)

def pongTo (id : Uuid) : Message :=
  Message.ofPart "kademlia" (.object [("type", .string "response"),
    ("rpc", .string "ping"), ("observer_id", .string (uuidText id))])

/-- A ping to `10.0.0.2` is answered, and the pong handler runs. -/
def answeredPing : List Event :=
  [.pingRequest 1 (nodeAt 2) .autoUpdate .null, .receive (pongTo 1) (nodeAt 2),
    .run 0 2]

theorem oneOutcome_answeredPing :
    ∃ last, Runs.execute (step (hostPlatform []))
        (start (hostPlatform []) (nodeAt 1) 0) answeredPing = some last ∧
      last.invoked = [.pong 1 (nodeAt 2)] ∧ last.OneOutcome (hostPlatform []) := by
  have hinvoked : (Runs.execute (step (hostPlatform []))
      (start (hostPlatform []) (nodeAt 1) 0) answeredPing).map DhtLoop.invoked =
        some [.pong 1 (nodeAt 2)] := by decide +kernel
  obtain ⟨last, hrun, hlast⟩ := Option.map_eq_some_iff.mp hinvoked
  exact ⟨last, hrun, hlast,
    oneOutcome_of_meets (nodeAt 1) 0 answeredPing last (by decide +kernel) hrun⟩

/-- The pong arrives twice before the storage is purged: both deliveries post the
pong handler, and it runs twice. -/
theorem not_oneOutcome_duplicate :
    ∃ last, Runs.execute (step (hostPlatform []))
        (start (hostPlatform []) (nodeAt 1) 0)
        [.pingRequest 1 (nodeAt 2) .autoUpdate .null, .receive (pongTo 1) (nodeAt 2),
          .receive (pongTo 1) (nodeAt 2), .run 0 2, .run 1 3] = some last ∧
      ¬ last.OneOutcome (hostPlatform []) := by
  have hinvoked : (Runs.execute (step (hostPlatform []))
      (start (hostPlatform []) (nodeAt 1) 0)
      [.pingRequest 1 (nodeAt 2) .autoUpdate .null, .receive (pongTo 1) (nodeAt 2),
        .receive (pongTo 1) (nodeAt 2), .run 0 2, .run 1 3]).map DhtLoop.invoked =
      some [.pong 1 (nodeAt 2), .pong 1 (nodeAt 2)] := by decide +kernel
  obtain ⟨last, hrun, hlast⟩ := Option.map_eq_some_iff.mp hinvoked
  refine ⟨last, hrun, fun houtcome => ?_⟩
  have hcount := houtcome.ping 1
  rw [hlast] at hcount
  revert hcount
  decide

end DhtLoop

end Kademlia

end SsP2p

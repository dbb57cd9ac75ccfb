import SsP2p.Kademlia.CallbackSafety
import SsP2p.Kademlia.DhtGrowth
import SsP2p.Kademlia.FindNodeExchange

/-!
# The find_node exchange from end to end

A find_node request is sent, answered from the table of the responder, and its reply is
handed to the observer of the request, which posts a call of its handler for every endpoint.
The calls find their observer unless a refresh tick comes between.
-/

namespace SsP2p.Kademlia

namespace DhtLoop

variable {platform : Platform}

/-! ## The ids of find_node observers -/

/-- Whatever belongs to a find_node has an id that was drawn. -/
def FindNodesDrawn (loop : DhtLoop) : Prop :=
  ∀ id, id ∉ loop.issued →
    loop.strage.findNodes.find id = none ∧ loop.answersTo id = 0

theorem FindNodesDrawn.of_answers_eq {loop next : DhtLoop} (hdrawn : loop.FindNodesDrawn)
    (hfind : ∀ id, loop.strage.findNodes.find id = none →
      next.strage.findNodes.find id = none)
    (hanswers : next.answers = loop.answers) (hissued : loop.issued ⊆ next.issued) :
    next.FindNodesDrawn := by
  intro id hid
  obtain ⟨hnone, hnoAnswer⟩ := hdrawn id fun hmem => hid (hissued hmem)
  refine ⟨hfind id hnone, ?_⟩
  rw [answersTo, hanswers, ← answersTo, hnoAnswer]

theorem findNodesDrawn_pingRequest {loop next : DhtLoop} {newId : Uuid} {ep : Endpoint}
    {pongHandler timeoutHandler : Handler} (hdrawn : loop.FindNodesDrawn)
    (hrequest : loop.pingRequest platform newId ep pongHandler timeoutHandler =
      some next) : next.FindNodesDrawn := by
  obtain ⟨-, payload, rfl⟩ := pingRequest_eq_some platform hrequest
  refine hdrawn.of_answers_eq (fun _ hnone => hnone) ?_ (List.subset_cons_self _ _)
  simp [answers, Callback.answer, Multiset.filterMap_cons, withStrage]

theorem findNodesDrawn_findNodeRequest {loop next : DhtLoop} {newId : Uuid} {ep : Endpoint}
    {ignoreEps : List Endpoint} {responseHandler : Handler} (hdrawn : loop.FindNodesDrawn)
    (hrequest : loop.findNodeRequest platform newId ep ignoreEps responseHandler =
      some next) : next.FindNodesDrawn := by
  obtain ⟨-, payload, rfl⟩ := findNodeRequest_eq_some platform hrequest
  intro id hid
  rw [List.mem_cons, not_or] at hid
  obtain ⟨hnone, hnoAnswer⟩ := hdrawn id hid.2
  have hne : (FindNode.make newId loop.io.now responseHandler).id ≠ id := Ne.symm hid.1
  have hother := KeyedList.find_insert_of_ne loop.strage.findNodes hne
  exact ⟨hother.trans hnone, hnoAnswer⟩

theorem findNodesDrawn_invoke {loop next : DhtLoop} {handler : Handler} {ep : Endpoint}
    {id : Uuid} (hdrawn : loop.FindNodesDrawn)
    (hinvoke : loop.invoke platform handler ep id = some next) : next.FindNodesDrawn := by
  rcases invoke_eq_some platform hinvoke with ⟨table, rfl, -, -⟩ | hrequest
  · exact hdrawn.of_answers_eq (fun _ hnone => hnone) rfl (List.Subset.refl _)
  · exact findNodesDrawn_pingRequest hdrawn hrequest

theorem findNodesDrawn_runCallback {loop next : DhtLoop} {io : IoContext} {position : ℕ}
    {newId : Uuid} {callback : Callback} (hdrawn : loop.FindNodesDrawn)
    (htake : loop.io.take position = some (callback, io))
    (hrun : runCallback platform { loop with io := io } newId callback = some next) :
    next.FindNodesDrawn := by
  have hpending := IoContext.pending_take htake
  have htaken : callback.answer = none →
      io.pending.filterMap Callback.answer = loop.io.pending.filterMap Callback.answer := by
    intro hnone
    rw [hpending, Multiset.filterMap_cons_none _ _ hnone]
  rcases runCallback_cases platform hrun with
    ⟨obsId, obs, rfl, -, rfl⟩ | ⟨invocation, handler, ep, hcalls, hinvoke⟩ | ⟨rfl, rfl⟩
  · rw [timeout]
    split_ifs
    · refine hdrawn.of_answers_eq (fun _ hnone => hnone) ?_ (List.Subset.refl _)
      rw [answers, answers, htaken rfl]
    · refine hdrawn.of_answers_eq (fun _ hnone => hnone) ?_ (List.Subset.refl _)
      simp only [answers, IoContext.pending_post, withStrage]
      rw [Multiset.filterMap_cons_none _ _ rfl, htaken rfl]
  · have hlogged : (({ loop with io := io } : DhtLoop).log invocation).FindNodesDrawn :=
      hdrawn.of_answers_eq (fun _ hnone => hnone)
        (calm_log htake hcalls.outcome_eq hcalls.answer_eq).answers (List.Subset.refl _)
    exact findNodesDrawn_invoke hlogged hinvoke
  · refine hdrawn.of_answers_eq (fun id hnone => ?_) ?_ (List.Subset.refl _)
    · have hfilter := KeyedList.find_filter loop.strage.findNodes
        (fun obs => !obs.base.isExpired io.now) id
      rw [hnone, Option.filter_none] at hfilter
      exact hfilter
    · simp [answers, refreshTick, hpending, withStrage]

theorem findNodesDrawn_receive {loop next : DhtLoop} {msg : Message} {ep : Endpoint}
    (hdrawn : loop.FindNodesDrawn)
    (hstep : loop.step platform (.receive msg ep) = some next) : next.FindNodesDrawn := by
  obtain ⟨manager, io, hincome, rfl⟩ := receive_eq_some platform hstep
  rcases DhtManager.incomeMessage_cases hincome with
    ⟨obs, -, -, rfl, rfl⟩ | ⟨obs, findedEps, -, hobs, -, rfl, rfl⟩ | ⟨table, rfl, hanswers⟩
  · refine hdrawn.of_answers_eq (fun _ hnone => hnone) ?_ (List.Subset.refl _)
    simp only [answers, Ping.incomeMessage, IoContext.pending_cancel, IoContext.pending_post]
    rw [Multiset.filterMap_cons_none _ _ rfl]
  · intro id hid
    obtain ⟨hnone, hnoAnswer⟩ := hdrawn id hid
    have hne : obs.id ≠ id := by
      rintro rfl
      rw [strage, hobs] at hnone
      cases hnone
    refine ⟨KeyedList.find_modify_of_none hnone obs.id FindNode.answered
      FindNode.id_answered, ?_⟩
    rw [answersTo, answers, Multiset.filterMap_add] at hnoAnswer ⊢
    rw [FindNode.pending_postAll, Multiset.filterMap_add, Multiset.filterMap_add,
      add_left_comm, hnoAnswer, add_zero, Multiset.filterMap_coe, List.filterMap_map,
      Multiset.filterMap_coe]
    simp [Function.comp_def, Callback.answer, hne]
  · obtain ⟨sent, hsent⟩ := hanswers.sends
    refine hdrawn.of_answers_eq (fun _ hnone => hnone) ?_ (List.Subset.refl _)
    have hpending : io.pending = loop.io.pending := by
      rw [show io = _ from hsent]
      rfl
    simp only [answers, hpending]

theorem findNodesDrawn_step {loop next : DhtLoop} {event : Event}
    (hdrawn : loop.FindNodesDrawn) (hstep : loop.step platform event = some next) :
    next.FindNodesDrawn := by
  cases event with
  | pingRequest id ep pongHandler timeoutHandler =>
      exact findNodesDrawn_pingRequest hdrawn hstep
  | findNodeRequest id ep ignoreEps responseHandler =>
      exact findNodesDrawn_findNodeRequest hdrawn hstep
  | receive msg ep => exact findNodesDrawn_receive hdrawn hstep
  | updateGlobalSelfEndpoint ep =>
      obtain rfl := Option.some.inj hstep
      exact hdrawn.of_answers_eq (fun _ hnone => hnone) rfl (List.Subset.refl _)
  | advance seconds =>
      obtain rfl := Option.some.inj hstep
      exact hdrawn.of_answers_eq (fun _ hnone => hnone) rfl (List.Subset.refl _)
  | expire position =>
      obtain ⟨io, hexpire, rfl⟩ := Option.map_eq_some_iff.mp hstep
      refine hdrawn.of_answers_eq (fun _ hnone => hnone) ?_ (List.Subset.refl _)
      rw [answers, IoContext.pending_expire hexpire, answers]
  | run position id =>
      obtain ⟨⟨callback, io⟩, htake, hrun⟩ := Option.bind_eq_some_iff.mp hstep
      exact findNodesDrawn_runCallback hdrawn htake hrun

theorem findNodesDrawn_of_reachable {loop : DhtLoop} (hreachable : loop.Reachable platform) :
    loop.FindNodesDrawn := by
  obtain ⟨ep, now, events, hrun⟩ := hreachable
  have hstart : (start platform ep now).FindNodesDrawn := fun _ _ => ⟨rfl, rfl⟩
  exact Runs.invariant_of_step FindNodesDrawn (fun _ _ _ => findNodesDrawn_step) hstart hrun

/-- What was never drawn is neither called nor waits. -/
theorem responses_of_answersTo {loop : DhtLoop} {id : Uuid} (hnone : loop.answersTo id = 0) :
    loop.responses id = [] := by
  have hle : (loop.responses id : Multiset Endpoint) ≤ loop.answersTo id := by
    rw [responses, responsesTo, waitingResponses, answersTo, answers, Multiset.filterMap_add,
      ← Multiset.coe_add]
    refine add_le_add_right ?_ _
    rw [← Multiset.filterMap_coe, ← Multiset.filterMap_coe, IoContext.pending]
    exact Multiset.filterMap_le_filterMap _
      (Multiset.filterMap_le_filterMap _ (Multiset.le_add_right _ _))
  rw [hnone, Multiset.le_zero] at hle
  exact Multiset.coe_eq_zero _ |>.mp hle

/-! ## One step -/

def RunsTick (loop : DhtLoop) : Event → Prop
  | .run position _ => ∃ io, loop.io.take position = some (.refreshTick, io)
  | _ => False

/-- A refresh tick is never stuck. -/
theorem not_runsTick_of_stuck {loop : DhtLoop} {event : Event}
    (hstuck : loop.step platform event = none) : ¬ loop.RunsTick event := by
  intro htick
  cases event with
  | run position id =>
      obtain ⟨io, htake⟩ := htick
      simp only [step, htake, Option.bind_some] at hstuck
      cases hstuck
  | _ => exact htick

theorem find_findNodes_invoke {loop next : DhtLoop} {handler : Handler} {ep : Endpoint}
    {newId : Uuid} (hinvoke : loop.invoke platform handler ep newId = some next) :
    next.strage.findNodes = loop.strage.findNodes := by
  rcases invoke_eq_some platform hinvoke with ⟨table, rfl, -, -⟩ | hrequest
  · rfl
  · obtain ⟨-, payload, rfl⟩ := pingRequest_eq_some platform hrequest
    rfl

/-- But for a refresh tick nothing happens to the observer of a find_node that gets no
message. -/
theorem find_findNodes_step {loop next : DhtLoop} {id : Uuid} {event : Event}
    (hissued : id ∈ loop.issued) (hinOrder : loop.InOrder platform id event)
    (htick : ¬ loop.RunsTick event) (hstep : loop.step platform event = some next) :
    next.strage.findNodes.find id = loop.strage.findNodes.find id := by
  cases event with
  | pingRequest newId ep pongHandler timeoutHandler =>
      obtain ⟨-, payload, rfl⟩ := pingRequest_eq_some platform hstep
      rfl
  | findNodeRequest newId ep ignoreEps responseHandler =>
      obtain ⟨hfresh, payload, rfl⟩ := findNodeRequest_eq_some platform hstep
      have hne : newId ≠ id := fun heq => hfresh (heq ▸ hissued)
      exact KeyedList.find_insert_of_ne loop.strage.findNodes hne
  | receive msg ep =>
      obtain ⟨manager, io, hincome, rfl⟩ := receive_eq_some platform hstep
      rcases DhtManager.incomeMessage_cases hincome with
        ⟨obs, -, -, rfl, -⟩ | ⟨obs, findedEps, hreceiver, -, -, rfl, -⟩ | ⟨table, rfl, -⟩
      · rfl
      · have hne : obs.id ≠ id := hinOrder obs hreceiver
        have hfind := KeyedList.find_modify loop.strage.findNodes obs.id FindNode.answered
          FindNode.id_answered id
        rw [if_neg (Ne.symm hne)] at hfind
        exact hfind
      · rfl
  | run position newId =>
      obtain ⟨⟨callback, io⟩, htake, hrun⟩ := Option.bind_eq_some_iff.mp hstep
      rcases runCallback_cases platform hrun with
        ⟨obsId, obs, -, -, rfl⟩ | ⟨invocation, handler, ep, -, hinvoke⟩ | ⟨rfl, -⟩
      · rw [timeout]
        split_ifs
        · rfl
        · rfl
      · rw [find_findNodes_invoke hinvoke]
        rfl
      · exact absurd ⟨io, htake⟩ htick
  | expire position =>
      obtain ⟨io, -, rfl⟩ := Option.map_eq_some_iff.mp hstep
      rfl
  | _ =>
      obtain rfl := Option.some.inj hstep
      rfl

/-- A refresh tick deletes the observer if it has expired. -/
theorem find_findNodes_tick {loop next : DhtLoop} {event : Event} (htick : loop.RunsTick event)
    (hstep : loop.step platform event = some next) (id : Uuid) :
    next.strage.findNodes.find id =
      (loop.strage.findNodes.find id).filter fun obs =>
        !obs.base.isExpired loop.io.now := by
  cases event with
  | run position newId =>
      obtain ⟨io, htake⟩ := htick
      simp only [step, htake, Option.bind_some] at hstep
      obtain rfl := Option.some.inj hstep
      rw [← IoContext.now_take htake]
      exact KeyedList.find_filter loop.strage.findNodes _ id
  | _ => exact htick.elim

theorem invoked_tick {loop next : DhtLoop} {event : Event} (htick : loop.RunsTick event)
    (hstep : loop.step platform event = some next) : next.invoked = loop.invoked := by
  cases event with
  | run position newId =>
      obtain ⟨io, htake⟩ := htick
      simp only [step, htake, Option.bind_some] at hstep
      obtain rfl := Option.some.inj hstep
      rfl
  | _ => exact htick.elim

/-- The calls that were made stay. -/
theorem responsesTo_prefix_step {loop next : DhtLoop} {event : Event}
    (hstep : loop.step platform event = some next) (id : Uuid) :
    loop.responsesTo id <+: next.responsesTo id := by
  have hprefix : loop.invoked <+: next.invoked → loop.responsesTo id <+: next.responsesTo id :=
    fun hinvoked => (hinvoked.filterMap _).filterMap _
  apply hprefix
  cases event with
  | pingRequest newId ep pongHandler timeoutHandler =>
      rw [(queues_of_pingRequest hstep).2.1]
  | findNodeRequest newId ep ignoreEps responseHandler =>
      obtain ⟨-, payload, rfl⟩ := findNodeRequest_eq_some platform hstep
      exact List.prefix_refl _
  | receive msg ep =>
      obtain ⟨manager, io, -, rfl⟩ := receive_eq_some platform hstep
      exact List.prefix_refl _
  | run position newId =>
      obtain ⟨⟨callback, io⟩, -, hrun⟩ := Option.bind_eq_some_iff.mp hstep
      rcases runCallback_cases platform hrun with
        ⟨obsId, obs, -, -, rfl⟩ | ⟨invocation, handler, ep, -, hinvoke⟩ | ⟨-, rfl⟩
      · rw [timeout]
        split_ifs
        · exact List.prefix_refl _
        · exact List.prefix_refl _
      · rw [(queues_of_invoke hinvoke).2.1]
        exact List.prefix_append _ _
      · exact List.prefix_refl _
  | expire position =>
      obtain ⟨io, -, rfl⟩ := Option.map_eq_some_iff.mp hstep
      exact List.prefix_refl _
  | _ =>
      obtain rfl := Option.some.inj hstep
      exact List.prefix_refl _

/-- When no call waits, none comes later. -/
theorem waitingResponses_step {loop next : DhtLoop} {id : Uuid} {event : Event}
    (htimers : loop.TimersOnly) (hinOrder : loop.InOrder platform id event)
    (hstep : loop.step platform event = some next) (hnone : loop.waitingResponses id = []) :
    next.waitingResponses id = [] := by
  have hsame := responses_step htimers hinOrder hstep
  rw [responses, responses, hnone, List.append_nil] at hsame
  have hlength := (responsesTo_prefix_step hstep id).length_le
  rw [← hsame, List.length_append] at hlength
  exact List.length_eq_zero_iff.mp (by omega)

/-! ## Running the queue -/

/-- The observer of the callback is stored, so that it can be run; a refresh tick is left
out. -/
def Callable (loop : DhtLoop) : Callback → Prop
  | .pingTimeout id | .pongHandler id | .timeoutHandler id =>
      (loop.strage.pings.find id).isSome = true
  | .responseHandler id _ => (loop.strage.findNodes.find id).isSome = true
  | _ => False

theorem Callable.mono {loop next : DhtLoop} (hkeeps : loop.strage.Keeps next.strage)
    {callback : Callback} (hcallable : loop.Callable callback) : next.Callable callback := by
  cases callback with
  | pingTimeout id => exact hkeeps.pings id hcallable
  | pongHandler id => exact hkeeps.pings id hcallable
  | timeoutHandler id => exact hkeeps.pings id hcallable
  | responseHandler id ep => exact hkeeps.findNodes id hcallable
  | _ => exact hcallable

variable (platform) in
/-- What is run first posts no call of a response handler. -/
theorem exists_runCallback {loop : DhtLoop} {callback : Callback} {newId : Uuid}
    (hcallable : loop.Callable callback) (hfresh : newId ∉ loop.issued) :
    ∃ next extra, runCallback platform loop newId callback = some next ∧
      next.io.ready = loop.io.ready ++ extra ∧ extra.filterMap Callback.answer = [] ∧
      next.issued ⊆ newId :: loop.issued := by
  have hcalled : ∀ (invocation : Invocation) (handler : Handler) (ep : Endpoint),
      ∃ next extra, (loop.log invocation).invoke platform handler ep newId = some next ∧
        next.io.ready = loop.io.ready ++ extra ∧ extra.filterMap Callback.answer = [] ∧
        next.issued ⊆ newId :: loop.issued := by
    intro invocation handler ep
    obtain ⟨next, hinvoke, -, hissued⟩ :=
      exists_invoke platform (loop.log invocation) handler ep hfresh
    refine ⟨next, [], hinvoke, ?_, rfl, hissued⟩
    rw [(queues_of_invoke hinvoke).1, List.append_nil]
    rfl
  cases callback with
  | pingTimeout id =>
      have hstored : (loop.strage.pings.find id).isSome = true := hcallable
      obtain ⟨obs, hfind⟩ := Option.isSome_iff_exists.mp hstored
      have hrun : runCallback platform loop newId (.pingTimeout id) =
          some (loop.timeout obs) := Option.map_eq_some_iff.mpr ⟨obs, hfind, rfl⟩
      rw [hrun, timeout]
      split_ifs
      · exact ⟨_, [], rfl, (List.append_nil _).symm, rfl, List.subset_cons_self _ _⟩
      · exact ⟨_, [.timeoutHandler obs.id], rfl, rfl, rfl, List.subset_cons_self _ _⟩
  | pongHandler id =>
      have hstored : (loop.strage.pings.find id).isSome = true := hcallable
      obtain ⟨obs, hfind⟩ := Option.isSome_iff_exists.mp hstored
      obtain ⟨next, extra, hinvoke, hrest⟩ :=
        hcalled (.pong id obs.destEp) obs.pongHandler obs.destEp
      exact ⟨next, extra, Option.bind_eq_some_iff.mpr ⟨obs, hfind, hinvoke⟩, hrest⟩
  | timeoutHandler id =>
      have hstored : (loop.strage.pings.find id).isSome = true := hcallable
      obtain ⟨obs, hfind⟩ := Option.isSome_iff_exists.mp hstored
      obtain ⟨next, extra, hinvoke, hrest⟩ :=
        hcalled (.timeout id obs.destEp) obs.timeoutHandler obs.destEp
      exact ⟨next, extra, Option.bind_eq_some_iff.mpr ⟨obs, hfind, hinvoke⟩, hrest⟩
  | responseHandler id ep =>
      have hstored : (loop.strage.findNodes.find id).isSome = true := hcallable
      obtain ⟨obs, hfind⟩ := Option.isSome_iff_exists.mp hstored
      obtain ⟨next, extra, hinvoke, hrest⟩ := hcalled (.response id ep) obs.responseHandler ep
      exact ⟨next, extra, Option.bind_eq_some_iff.mpr ⟨obs, hfind, hinvoke⟩, hrest⟩
  | _ => exact hcallable.elim

variable (platform) in
/-- Callbacks that can be run are all run, one after the other. -/
theorem exists_execute_queue {queue extra : List Callback} {loop : DhtLoop} {ids : List Uuid}
    (hready : loop.io.ready = queue ++ extra)
    (hextra : extra.filterMap Callback.answer = [])
    (hcallable : ∀ callback ∈ queue, loop.Callable callback)
    (hlength : ids.length = queue.length) (hnodup : ids.Nodup)
    (hfresh : ∀ newId ∈ ids, newId ∉ loop.issued) :
    ∃ last, Runs.execute (step platform) loop (ids.map (.run 0)) = some last ∧
      last.io.ready.filterMap Callback.answer = [] := by
  induction queue generalizing loop extra ids with
  | nil =>
      obtain rfl := List.length_eq_zero_iff.mp hlength
      exact ⟨loop, rfl, by rw [hready]; exact hextra⟩
  | cons callback queue ih =>
      cases ids with
      | nil => cases hlength
      | cons newId ids =>
          obtain ⟨hnotMem, hnodup⟩ := List.nodup_cons.mp hnodup
          have htake : loop.io.take 0 =
              some (callback, { loop.io with ready := queue ++ extra }) := by
            rw [IoContext.take, hready]
            rfl
          have hfirst : ({ loop with io := { loop.io with ready := queue ++ extra } } :
              DhtLoop).Callable callback := hcallable callback List.mem_cons_self
          obtain ⟨next, more, hrun, hqueue, hmore, hissued⟩ :=
            exists_runCallback platform hfirst (hfresh newId List.mem_cons_self)
          have hstep : loop.step platform (.run 0 newId) = some next :=
            Option.bind_eq_some_iff.mpr ⟨_, htake, hrun⟩
          have hkeeps : loop.strage.Keeps next.strage := by
            refine (grows_step (fun position id io heq hother => ?_) hstep).keeps
            obtain ⟨rfl, rfl⟩ := Event.run.inj heq
            rw [htake] at hother
            obtain ⟨rfl, -⟩ := Prod.mk.inj (Option.some.inj hother)
            exact hfirst
          obtain ⟨last, hrest, hlast⟩ := ih (hqueue.trans (List.append_assoc _ _ _))
            (by rw [List.filterMap_append, hextra, hmore, List.append_nil])
            (fun other hother =>
              (hcallable other (List.mem_cons_of_mem callback hother)).mono hkeeps)
            (Nat.succ.inj hlength) hnodup (fun other hother hmem => by
              cases List.mem_cons.mp (hissued hmem) with
              | inl heq => exact hnotMem (heq ▸ hother)
              | inr hold => exact hfresh other (List.mem_cons_of_mem newId hother) hold)
          exact ⟨last, Runs.execute_cons_eq_some.mpr ⟨next, hstep, hrest⟩, hlast⟩

/-! ## From the arrival of the reply on -/

/-- The response handler was called, or is to be called, once for each of these endpoints in
their order, and the calls to come find their observer. -/
structure Serves (id : Uuid) (eps : List Endpoint) (loop : DhtLoop) : Prop where
  calls : loop.responsesTo id ++ loop.waitingResponses id = eps
  stored : loop.waitingResponses id ≠ [] → (loop.strage.findNodes.find id).isSome = true

instance (id : Uuid) (eps : List Endpoint) (loop : DhtLoop) : Decidable (loop.Serves id eps) :=
  decidable_of_iff (loop.responsesTo id ++ loop.waitingResponses id = eps ∧
      (loop.waitingResponses id ≠ [] → (loop.strage.findNodes.find id).isSome = true))
    ⟨fun hserves => ⟨hserves.1, hserves.2⟩, fun hserves => ⟨hserves.1, hserves.2⟩⟩

/-- The handler of the find_node is called exactly once for each of these endpoints in their
order: none of the calls is lost, doubled or undefined while anything else happens, and
whoever runs the queue makes them all. -/
structure Delivered (platform : Platform) (id : Uuid) (eps : List Endpoint)
    (answered : DhtLoop) (after : List Event) : Prop where
  serves : Runs.Throughout (step platform) (Serves id eps) answered after
  made : ∀ last, Runs.execute (step platform) answered after = some last →
    (∀ callback ∈ last.io.ready, last.Callable callback) →
    ∀ ids : List Uuid, ids.length = last.io.ready.length → ids.Nodup →
    (∀ newId ∈ ids, newId ∉ last.issued) →
    ∃ final, Runs.execute (step platform) last (ids.map (.run 0)) = some final ∧
      final.responsesTo id = eps

theorem delivered_iff {id : Uuid} {eps : List Endpoint} {answered : DhtLoop}
    {after : List Event} (htimers : answered.TimersOnly) :
    Delivered platform id eps answered after ↔
      Runs.Throughout (step platform) (Serves id eps) answered after := by
  refine ⟨Delivered.serves, fun hserves => ⟨hserves, ?_⟩⟩
  intro last hrun hcallable ids hlength hnodup hfresh
  have htimersLast : last.TimersOnly :=
    Runs.invariant_of_step TimersOnly (fun _ _ _ => timersOnly_step) htimers hrun
  obtain ⟨final, hqueue, hnone⟩ := exists_execute_queue platform
    (List.append_nil last.io.ready).symm rfl hcallable hlength hnodup hfresh
  refine ⟨final, hqueue, ?_⟩
  have hmeets : Runs.Meets (step platform) (InOrder platform id) last
      (ids.map (.run 0)) := by
    apply Runs.meets_of_forall
    intro event hevent loop
    obtain ⟨newId, -, rfl⟩ := List.mem_map.mp hevent
    rfl
  have hsame := responses_of_meets htimersLast hmeets hqueue
  have hcalls := (Runs.last_of_throughout hserves hrun).calls
  rw [← responses, ← hsame, responses, waitingResponses, hnone, List.filterMap_nil,
    List.append_nil] at hcalls
  exact hcalls

/-- No refresh tick is run between the arrival of the reply and the last of the calls. -/
def SparesCalls (id : Uuid) (loop : DhtLoop) (event : Event) : Prop :=
  loop.RunsTick event → loop.waitingResponses id = []

/-- What is known once the reply has arrived. -/
structure Answered (id : Uuid) (eps : List Endpoint) (loop : DhtLoop) : Prop where
  timers : loop.TimersOnly
  issued : id ∈ loop.issued
  owed : loop.responses id = eps
  expired : ∀ obs, loop.strage.findNodes.find id = some obs → obs.base.expireAt = 0

theorem Answered.find_of_tick {id : Uuid} {eps : List Endpoint} {loop next : DhtLoop}
    {event : Event} (hanswered : loop.Answered id eps) (htick : loop.RunsTick event)
    (hstep : loop.step platform event = some next) :
    next.strage.findNodes.find id = none := by
  rw [find_findNodes_tick htick hstep]
  cases hfind : loop.strage.findNodes.find id with
  | none => rfl
  | some obs =>
      have hexpired : obs.base.isExpired loop.io.now = true := by
        simp [BaseObserver.isExpired, hanswered.expired obs hfind]
      rw [Option.filter_some, hexpired]
      rfl

theorem Answered.step {id : Uuid} {eps : List Endpoint} {loop next : DhtLoop} {event : Event}
    (hanswered : loop.Answered id eps) (hinOrder : loop.InOrder platform id event)
    (hstep : loop.step platform event = some next) : next.Answered id eps where
  timers := timersOnly_step hanswered.timers hstep
  issued := (extends_step hstep).issued hanswered.issued
  owed := (responses_step hanswered.timers hinOrder hstep).trans hanswered.owed
  expired := by
    by_cases htick : loop.RunsTick event
    · rw [hanswered.find_of_tick htick hstep]
      exact nofun
    · rw [find_findNodes_step hanswered.issued hinOrder htick hstep]
      exact hanswered.expired

theorem Answered.serves_iff {id : Uuid} {eps : List Endpoint} {loop next : DhtLoop}
    {event : Event} (hanswered : loop.Answered id eps)
    (hinOrder : loop.InOrder platform id event) (hserves : loop.Serves id eps)
    (hstep : loop.step platform event = some next) :
    next.Serves id eps ↔ loop.SparesCalls id event := by
  have hnext := hanswered.step hinOrder hstep
  by_cases htick : loop.RunsTick event
  · constructor
    · intro hafter _
      by_contra hwaits
      have hsame := responses_step hanswered.timers hinOrder hstep
      simp only [responses, responsesTo, invoked_tick htick hstep] at hsame
      rw [← List.append_cancel_left hsame] at hwaits
      have hstored := hafter.stored hwaits
      rw [hanswered.find_of_tick htick hstep] at hstored
      cases hstored
    · intro hspares
      refine ⟨hnext.owed, fun hwaits => absurd ?_ hwaits⟩
      exact waitingResponses_step hanswered.timers hinOrder hstep (hspares htick)
  · refine iff_of_true ⟨hnext.owed, fun hwaits => ?_⟩ fun hruns => absurd hruns htick
    rw [find_findNodes_step hanswered.issued hinOrder htick hstep]
    exact hserves.stored fun hnone =>
      hwaits (waitingResponses_step hanswered.timers hinOrder hstep hnone)

/-- The queue of a find_node that found nobody stays empty. -/
theorem Answered.throughout_nil {id : Uuid} {loop : DhtLoop} {events : List Event}
    (hanswered : loop.Answered id [])
    (hmeets : Runs.Meets (DhtLoop.step platform) (InOrder platform id) loop events) :
    Runs.Throughout (DhtLoop.step platform) (Serves id []) loop events := by
  refine Runs.throughout_of_meets (Answered id [])
    (fun _ _ _ hanswered hinOrder hstep => hanswered.step hinOrder hstep)
    (fun state hstate => ⟨hstate.owed, fun hwaits => absurd ?_ hwaits⟩) hanswered hmeets
  exact (List.append_eq_nil_iff.mp hstate.owed).2

theorem Answered.throughout_iff {id : Uuid} {eps : List Endpoint} {loop : DhtLoop}
    {events : List Event} (hanswered : loop.Answered id eps)
    (hmeets : Runs.Meets (DhtLoop.step platform) (InOrder platform id) loop events)
    (hserves : loop.Serves id eps) :
    Runs.Throughout (DhtLoop.step platform) (Serves id eps) loop events ↔
      Runs.Meets (DhtLoop.step platform) (SparesCalls id) loop events :=
  Runs.throughout_iff_meets_within (Answered id eps)
    (fun _ _ _ hanswered hinOrder hstep => hanswered.step hinOrder hstep)
    (fun _ _ _ hanswered hinOrder hserves hstep =>
      hanswered.serves_iff hinOrder hserves hstep)
    (fun _ _ hstuck hruns => absurd hruns (not_runsTick_of_stuck hstuck))
    hmeets hanswered hserves

/-! ## Until the reply arrives -/

/-- No refresh tick is run when the observer of the request has expired. -/
def KeepsOpen (id : Uuid) (loop : DhtLoop) (event : Event) : Prop :=
  loop.RunsTick event → ∀ obs, loop.strage.findNodes.find id = some obs →
    obs.base.isExpired loop.io.now = false

/-- What is known while the reply is to come. -/
structure Asked (id : Uuid) (obs : FindNode) (loop : DhtLoop) : Prop where
  timers : loop.TimersOnly
  issued : id ∈ loop.issued
  owed : loop.responses id = []
  found : ∀ other, loop.strage.findNodes.find id = some other → other = obs

theorem Asked.step {id : Uuid} {obs : FindNode} {loop next : DhtLoop} {event : Event}
    (hasked : loop.Asked id obs) (hinOrder : loop.InOrder platform id event)
    (hstep : loop.step platform event = some next) : next.Asked id obs where
  timers := timersOnly_step hasked.timers hstep
  issued := (extends_step hstep).issued hasked.issued
  owed := (responses_step hasked.timers hinOrder hstep).trans hasked.owed
  found := by
    by_cases htick : loop.RunsTick event
    · intro other hother
      rw [find_findNodes_tick htick hstep, Option.filter_eq_some_iff] at hother
      exact hasked.found other hother.1
    · rw [find_findNodes_step hasked.issued hinOrder htick hstep]
      exact hasked.found

/-- A step keeps the observer, which has not changed, unless a refresh tick found it
expired. -/
theorem Asked.find_iff_step {id : Uuid} {obs : FindNode} {loop next : DhtLoop} {event : Event}
    (hasked : loop.Asked id obs) (hinOrder : loop.InOrder platform id event)
    (hfind : loop.strage.findNodes.find id = some obs)
    (hstep : loop.step platform event = some next) :
    next.strage.findNodes.find id = some obs ↔ loop.KeepsOpen id event := by
  by_cases htick : loop.RunsTick event
  · rw [find_findNodes_tick htick hstep, hfind, Option.filter_eq_some_iff]
    constructor
    · intro hkept _ other hother
      obtain rfl := Option.some.inj (hfind.symm.trans hother)
      simpa using hkept.2
    · intro hopen
      simpa using hopen htick obs hfind
  · rw [find_findNodes_step hasked.issued hinOrder htick hstep]
    exact iff_of_true hfind fun hruns => absurd hruns htick

/-- An observer that is there after a step was there before. -/
theorem Asked.find_of_step {id : Uuid} {obs : FindNode} {loop next : DhtLoop} {event : Event}
    (hasked : loop.Asked id obs) (hinOrder : loop.InOrder platform id event)
    (hstep : loop.step platform event = some next)
    (hfind : next.strage.findNodes.find id = some obs) :
    loop.strage.findNodes.find id = some obs := by
  by_cases htick : loop.RunsTick event
  · rw [find_findNodes_tick htick hstep, Option.filter_eq_some_iff] at hfind
    exact hfind.1
  · rwa [find_findNodes_step hasked.issued hinOrder htick hstep] at hfind

/-- The observer is still there at the end exactly if no refresh tick found it expired. -/
theorem Asked.find_iff {id : Uuid} {obs : FindNode} {loop last : DhtLoop}
    {events : List Event} (hasked : loop.Asked id obs)
    (hfind : loop.strage.findNodes.find id = some obs)
    (hmeets : Runs.Meets (DhtLoop.step platform) (InOrder platform id) loop events)
    (hrun : Runs.execute (DhtLoop.step platform) loop events = some last) :
    last.strage.findNodes.find id = some obs ↔
      Runs.Meets (DhtLoop.step platform) (KeepsOpen id) loop events := by
  have hkept : Runs.Throughout (DhtLoop.step platform)
      (fun state => state.strage.findNodes.find id = some obs) loop events ↔
        last.strage.findNodes.find id = some obs :=
    Runs.throughout_iff_last (Asked id obs)
      (fun _ _ _ hasked hinOrder hstep => hasked.step hinOrder hstep)
      (fun _ _ _ hasked hinOrder hstep => hasked.find_of_step hinOrder hstep)
      hmeets hasked hrun
  rw [← hkept]
  exact Runs.throughout_iff_meets_within (Asked id obs)
    (fun _ _ _ hasked hinOrder hstep => hasked.step hinOrder hstep)
    (fun _ _ _ hasked hinOrder hfind hstep => hasked.find_iff_step hinOrder hfind hstep)
    (fun _ _ hstuck hruns => absurd hruns (not_runsTick_of_stuck hstuck))
    hmeets hasked hfind

/-! ## The arrival of the reply -/

/-- What the arrival of a reply amounts to. -/
structure Taken (requester answered : DhtLoop) (obs : FindNode) (eps : List Endpoint) :
    Prop where
  strage : answered.strage = requester.strage.answerFindNode obs.id
  table : answered.table = requester.table
  io : answered.io = obs.postAll requester.io eps
  invoked : answered.invoked = requester.invoked
  issued : answered.issued = requester.issued

theorem exists_taken (hreads : platform.ReadsBack) {id : Uuid}
    (ignoreEps : List Endpoint) {eps : List Endpoint} (hv4 : ∀ ep ∈ eps, ep.IsV4)
    {requester : DhtLoop} {obs : FindNode}
    (hfind : requester.strage.findNodes.find id = some obs) (ep : Endpoint) :
    ∃ answered, requester.step platform (.receive (Message.ofPart "kademlia"
        (KMessage.findNodeResponseBody platform id ignoreEps eps)) ep) = some answered ∧
      Taken requester answered obs eps := by
  obtain rfl : obs.id = id := KeyedList.key_of_find hfind
  have hincome := DhtManager.incomeMessage_findNodeResponseBody hreads ignoreEps hv4 hfind
    requester.io ep
  simp only [step, hincome]
  exact ⟨_, rfl, rfl, rfl, rfl, rfl, rfl⟩

/-- Nothing comes of a reply when the observer of the request is gone. -/
theorem step_receive_of_none (hreads : platform.ReadsBack) {id : Uuid}
    (ignoreEps : List Endpoint) {eps : List Endpoint} (hv4 : ∀ ep ∈ eps, ep.IsV4)
    {requester : DhtLoop} (hfind : requester.strage.findNodes.find id = none)
    (ep : Endpoint) :
    ∃ received, requester.step platform (.receive (Message.ofPart "kademlia"
        (KMessage.findNodeResponseBody platform id ignoreEps eps)) ep) =
      some { requester with received := received } := by
  have hincome := DhtManager.incomeMessage_findNodeResponseBody_of_none hreads ignoreEps hv4
    hfind requester.io ep
  simp only [step, hincome]
  exact ⟨_, rfl⟩

namespace Taken

variable {requester answered : DhtLoop} {obs : FindNode} {eps : List Endpoint}

theorem ready (htaken : Taken requester answered obs eps) :
    answered.io.ready = requester.io.ready ++ eps.map (.responseHandler obs.id) := by
  rw [htaken.io, FindNode.postAll_eq]

theorem sent (htaken : Taken requester answered obs eps) :
    answered.io.sent = requester.io.sent := by
  rw [htaken.io, FindNode.postAll_eq]

theorem timersOnly (htaken : Taken requester answered obs eps)
    (htimers : requester.TimersOnly) : answered.TimersOnly := by
  rw [TimersOnly, htaken.io, FindNode.postAll_eq]
  exact htimers

theorem responses_eq (htaken : Taken requester answered obs eps) :
    answered.responses obs.id =
      requester.responsesTo obs.id ++ requester.waitingResponses obs.id ++ eps := by
  have hmap : ((eps.map (Callback.responseHandler obs.id)).filterMap
      Callback.answer).filterMap
        (fun answer => if answer.1 = obs.id then some answer.2 else none) = eps := by
    simp [List.filterMap_map, Function.comp_def, Callback.answer]
  rw [responses, waitingResponses, waitingResponses, responsesTo, responsesTo,
    htaken.ready, htaken.invoked, List.filterMap_append, List.filterMap_append, hmap,
    List.append_assoc]

theorem find_findNodes (htaken : Taken requester answered obs eps) (id : Uuid) :
    answered.strage.findNodes.find id =
      if id = obs.id then (requester.strage.findNodes.find obs.id).map FindNode.answered
      else requester.strage.findNodes.find id := by
  rw [htaken.strage, KObserverStrage.answerFindNode, KeyedList.find_modify]

theorem othersKept (htaken : Taken requester answered obs eps) :
    KObserverStrage.OthersKept requester.strage answered.strage obs.id .findNode where
  pings id _ := by
    rw [htaken.strage]
    rfl
  findNodes id hother := by
    rw [htaken.find_findNodes, if_neg (hother.resolve_left (not_not_intro rfl))]

end Taken

/-- The arrival of the reply touches nothing but the observer of the request. -/
structure Received (id : Uuid) (waiting answered : DhtLoop) : Prop where
  others : KObserverStrage.OthersKept waiting.strage answered.strage id .findNode
  table : answered.table = waiting.table
  sent : answered.io.sent = waiting.io.sent

theorem Asked.answered_of_none {id : Uuid} {obs : FindNode} {waiting : DhtLoop}
    (hasked : waiting.Asked id obs) (hfind : waiting.strage.findNodes.find id = none)
    (received : List Message) :
    ({ waiting with received := received } : DhtLoop).Answered id [] where
  timers := hasked.timers
  issued := hasked.issued
  owed := hasked.owed
  expired obs hobs := by
    have hnone : some obs = none := hobs.symm.trans hfind
    cases hnone

theorem Asked.answered_of_taken {obs : FindNode} {waiting answered : DhtLoop}
    {eps : List Endpoint} (hasked : waiting.Asked obs.id obs)
    (hfind : waiting.strage.findNodes.find obs.id = some obs)
    (htaken : Taken waiting answered obs eps) : answered.Answered obs.id eps where
  timers := htaken.timersOnly hasked.timers
  issued := htaken.issued ▸ hasked.issued
  owed := by
    have howed := hasked.owed
    rw [responses] at howed
    rw [htaken.responses_eq, howed, List.nil_append]
  expired := by
    intro other hother
    rw [htaken.find_findNodes, if_pos rfl, hfind, Option.map_some] at hother
    obtain rfl := Option.some.inj hother
    rfl

/-- Once the reply has arrived, the calls depend on the refresh ticks alone. -/
theorem Asked.exists_received (hreads : platform.ReadsBack) {id : Uuid}
    (ignoreEps : List Endpoint) {eps : List Endpoint} (hv4 : ∀ ep ∈ eps, ep.IsV4)
    {obs : FindNode} {requested waiting : DhtLoop} {before : List Event}
    (hasked : requested.Asked id obs)
    (hfind : requested.strage.findNodes.find id = some obs)
    (hmeets : Runs.Meets (DhtLoop.step platform) (InOrder platform id) requested before)
    (hrun : Runs.execute (DhtLoop.step platform) requested before = some waiting)
    (source : Endpoint) :
    ∃ answered, waiting.step platform (.receive (Message.ofPart "kademlia"
        (KMessage.findNodeResponseBody platform id ignoreEps eps)) source) = some answered ∧
      Received id waiting answered ∧
      ∀ after, Runs.Meets (DhtLoop.step platform) (InOrder platform id) answered after →
        (Delivered platform id eps answered after ↔ eps = [] ∨
          Runs.Meets (DhtLoop.step platform) (KeepsOpen id) requested before ∧
          Runs.Meets (DhtLoop.step platform) (SparesCalls id) answered after) := by
  obtain rfl : obs.id = id := KeyedList.key_of_find hfind
  have hwaits : waiting.Asked obs.id obs :=
    Runs.invariant_of_meets (Asked obs.id obs)
      (fun _ _ _ hasked hinOrder hstep => hasked.step hinOrder hstep) hasked hmeets hrun
  have hopen := hasked.find_iff hfind hmeets hrun
  cases hwaiting : waiting.strage.findNodes.find obs.id with
  | none =>
      obtain ⟨received, hstep⟩ :=
        step_receive_of_none hreads ignoreEps hv4 hwaiting source
      have hanswered := hwaits.answered_of_none hwaiting received
      refine ⟨_, hstep, ⟨⟨fun _ _ => rfl, fun _ _ => rfl⟩, rfl, rfl⟩, fun after hafter => ?_⟩
      have hclosed : ¬ Runs.Meets (DhtLoop.step platform) (KeepsOpen obs.id) requested
          before := by
        rw [← hopen, hwaiting]
        exact nofun
      rw [delivered_iff hanswered.timers, or_iff_left fun hkept => hclosed hkept.1]
      constructor
      · intro hserves
        have hcalls := (Runs.first_of_throughout hserves).calls
        exact hcalls.symm.trans hanswered.owed
      · rintro rfl
        exact hanswered.throughout_nil hafter
  | some other =>
      obtain rfl := hwaits.found other hwaiting
      obtain ⟨answered, hstep, htaken⟩ := exists_taken hreads ignoreEps hv4 hwaiting source
      refine ⟨answered, hstep, ⟨htaken.othersKept, htaken.table, htaken.sent⟩,
        fun after hafter => ?_⟩
      have hanswered := hwaits.answered_of_taken hwaiting htaken
      have hserves : answered.Serves other.id eps := by
        refine ⟨hanswered.owed, fun _ => ?_⟩
        rw [htaken.find_findNodes, if_pos rfl, hwaiting]
        rfl
      rw [delivered_iff hanswered.timers]
      by_cases heps : eps = []
      · subst heps
        exact iff_of_true (hanswered.throughout_nil hafter) (Or.inl rfl)
      · rw [hanswered.throughout_iff hafter hserves, or_iff_right heps,
          and_iff_right (hopen.mp hwaiting)]

/-! ## The exchange -/

/-- A find_node request is sent, and its reply tells of these endpoints, which the responder
knows and may tell of. -/
structure Exchanged (platform : Platform) (responder : DhtManager)
    (requester requested : DhtLoop) (requesterEp responderEp : Endpoint) (id : Uuid)
    (ignoreEps eps : List Endpoint) (handler : Handler) : Prop where
  asked : requester.step platform
    (.findNodeRequest id responderEp ignoreEps handler) = some requested
  sent : requested.io.sent = requester.io.sent ++ [⟨responderEp, Message.ofPart "kademlia"
    (KMessage.findNodeRequestBody platform id ignoreEps)⟩]
  replied : ∀ io, responder.incomeMessage platform io
      (Message.ofPart "kademlia" (KMessage.findNodeRequestBody platform id ignoreEps))
      requesterEp =
    .ok (responder, { io with sent := io.sent ++ [⟨requesterEp, Message.ofPart "kademlia"
      (KMessage.findNodeResponseBody platform id ignoreEps eps)⟩] })
  eligible : ∀ ep ∈ eps,
    ep ≠ requesterEp ∧ ep ∉ ignoreEps ∧ responder.routingTable.Knows ep

/-- A request with a fresh id is always sent. -/
theorem exists_requested {requester : DhtLoop} (hreachable : requester.Reachable platform)
    {id : Uuid} (hfresh : id ∉ requester.issued) (responderEp : Endpoint)
    (ignoreEps : List Endpoint) (handler : Handler) :
    ∃ requested, requester.step platform
        (.findNodeRequest id responderEp ignoreEps handler) = some requested ∧
      requested.io.sent = requester.io.sent ++ [⟨responderEp, Message.ofPart "kademlia"
        (KMessage.findNodeRequestBody platform id ignoreEps)⟩] ∧
      requested.strage.findNodes.find id =
        some (FindNode.make id requester.io.now handler) ∧
      requested.Asked id (FindNode.make id requester.io.now handler) := by
  obtain ⟨hunused, hnoAnswer⟩ := findNodesDrawn_of_reachable hreachable id hfresh
  have hrequest : ∃ requested, requester.step platform
      (.findNodeRequest id responderEp ignoreEps handler) = some requested := by
    rw [step, findNodeRequest, if_neg hfresh, RpcManager.findNodeRequest_eq]
    exact ⟨_, rfl⟩
  obtain ⟨requested, hstep⟩ := hrequest
  have hstored : requested.strage.findNodes.find id =
      some (FindNode.make id requester.io.now handler) := by
    have hinsert := KeyedList.find_insert_self requester.strage.findNodes
      (FindNode.make id requester.io.now handler)
    rw [FindNode.id_make, hunused, Option.getD_none] at hinsert
    obtain ⟨-, payload, rfl⟩ := findNodeRequest_eq_some platform hstep
    exact hinsert
  have hsent : requested.io.sent = requester.io.sent ++ [⟨responderEp,
      Message.ofPart "kademlia" (KMessage.findNodeRequestBody platform id ignoreEps)⟩] := by
    simp only [step, findNodeRequest, if_neg hfresh, RpcManager.findNodeRequest_eq] at hstep
    obtain rfl := Option.some.inj hstep
    rfl
  have htimers := timersOnly_of_reachable hreachable
  refine ⟨requested, hstep, hsent, hstored, timersOnly_step htimers hstep, ?_, ?_, ?_⟩
  · obtain ⟨-, payload, rfl⟩ := findNodeRequest_eq_some platform hstep
    exact List.mem_cons_self
  · have hinOrder : requester.InOrder platform id
        (.findNodeRequest id responderEp ignoreEps handler) := trivial
    rw [responses_step htimers hinOrder hstep, responses_of_answersTo hnoAnswer]
  · intro other hother
    exact Option.some.inj (hother.symm.trans hstored)

/-- The find_node exchange from end to end: the handler of the requester is called exactly
once for each endpoint that the responder collects from its table, in their order, exactly
if nobody is collected, or no refresh tick comes when the observer has expired before the
reply, nor between the reply and the last call. -/
theorem delivered_findNode_iff (hreads : platform.ReadsBack) {responder : DhtManager}
    (hnodes : responder.routingTable.OfEndpoints platform)
    (htable : ∀ ep, responder.routingTable.Knows ep → ep.IsV4) {ignoreEps : List Endpoint}
    (hignore : ∀ ep ∈ ignoreEps, ep.IsV4) {id : Uuid}
    (hnone : responder.obsStrage.findNodes.find id = none) {requester : DhtLoop}
    (hreachable : requester.Reachable platform) (hfresh : id ∉ requester.issued)
    (requesterEp responderEp : Endpoint) (handler : Handler) {eps : List Endpoint}
    (heps : eps = responder.routingTable.collectEndpoint platform requesterEp
      defaultFindNodeSize (ignoreEps ++ [requesterEp])) :
    ∃ requested, Exchanged platform responder requester requested requesterEp responderEp id
        ignoreEps eps handler ∧
      ∀ before waiting,
        Runs.Meets (step platform) (InOrder platform id) requested before →
        Runs.execute (step platform) requested before = some waiting →
        ∀ source, ∃ answered, waiting.step platform (.receive (Message.ofPart "kademlia"
            (KMessage.findNodeResponseBody platform id ignoreEps eps)) source) =
              some answered ∧
          Received id waiting answered ∧
          ∀ after, Runs.Meets (step platform) (InOrder platform id) answered after →
            (Delivered platform id eps answered after ↔ eps = [] ∨
              Runs.Meets (step platform) (KeepsOpen id) requested before ∧
              Runs.Meets (step platform) (SparesCalls id) answered after) := by
  have hcollected : ∀ ep ∈ eps,
      responder.routingTable.Knows ep ∧ ep ∉ ignoreEps ++ [requesterEp] := by
    intro ep hep
    rw [heps] at hep
    have hmem := KRoutingTable.mem_collectEndpoint hep
    exact ⟨hmem.1, hmem.2 hnodes⟩
  obtain ⟨requested, hstep, hsent, hstored, hasked⟩ :=
    exists_requested hreachable hfresh responderEp ignoreEps handler
  refine ⟨requested, ⟨hstep, hsent, ?_, ?_⟩, ?_⟩
  · intro io
    rw [heps]
    exact DhtManager.incomeMessage_findNodeRequestBody hreads hignore hnone io requesterEp
  · intro ep hep
    obtain ⟨hknows, hnotMem⟩ := hcollected ep hep
    rw [List.mem_append, List.mem_singleton, not_or] at hnotMem
    exact ⟨hnotMem.2, hnotMem.1, hknows⟩
  · intro before waiting hmeets hrun source
    exact hasked.exists_received hreads ignoreEps
      (fun ep hep => htable ep (hcollected ep hep).1) hstored hmeets hrun source

/-- A node whose table holds `10.0.0.1:8100`, `10.0.0.3:8100` and `10.0.0.4:8100`. -/
def threePeers : DhtManager :=
  { DhtManager.make (hostPlatform []) (nodeAt 2) with
    routingTable := (KRoutingTable.empty (calcNodeId (hostPlatform []) (nodeAt 2))).autoUpdateBatch
      (hostPlatform []) [nodeAt 1, nodeAt 3, nodeAt 4] }

theorem isV4_of_knows_threePeers (ep : Endpoint)
    (hknows : threePeers.routingTable.Knows ep) : ep.IsV4 := by
  have hmem := (KRoutingTable.knows_autoUpdateBatch hknows).resolve_left
    (KRoutingTable.not_knows_empty _ ep)
  simp only [List.mem_cons, List.not_mem_nil, or_false] at hmem
  rcases hmem with rfl | rfl | rfl <;> exact ⟨_, rfl⟩

/-- The reply of this node to `10.0.0.1:8100`, which asked for others than
`10.0.0.4:8100`. -/
def threePeersReply : Message :=
  Message.ofPart "kademlia"
    (KMessage.findNodeResponseBody (hostPlatform []) 7 [nodeAt 4] [nodeAt 3])

theorem collectEndpoint_threePeers :
    [nodeAt 3] = threePeers.routingTable.collectEndpoint (hostPlatform []) (nodeAt 1)
      defaultFindNodeSize ([nodeAt 4] ++ [nodeAt 1]) := by
  decide +kernel

/-- The reply comes at once, and no refresh tick comes. -/
theorem delivered_threePeers :
    ∃ answered, Runs.execute (step (hostPlatform [])) (start (hostPlatform []) (nodeAt 1) 0)
        [.findNodeRequest 7 (nodeAt 2) [nodeAt 4] .null, .advance 1,
          .receive threePeersReply (nodeAt 2)] = some answered ∧
      Delivered (hostPlatform []) 7 [nodeAt 3] answered [.advance 1] := by
  have hignore : ∀ ep ∈ [nodeAt 4], ep.IsV4 := by
    intro ep hmem
    obtain rfl := List.mem_singleton.mp hmem
    exact ⟨_, rfl⟩
  obtain ⟨requested, hexchanged, hdelivers⟩ :=
    delivered_findNode_iff (readsBack_hostPlatform [])
      (KRoutingTable.ofEndpoints_autoUpdateBatch _ (KRoutingTable.ofEndpoints_empty _ _) _)
      isV4_of_knows_threePeers hignore rfl ⟨nodeAt 1, 0, [], rfl⟩ List.not_mem_nil
      (nodeAt 1) (nodeAt 2) .null collectEndpoint_threePeers
  obtain ⟨answered, hanswered, -, hiff⟩ :=
    hdelivers [.advance 1] _ ⟨trivial, trivial⟩ rfl (nodeAt 2)
  refine ⟨answered, ?_, (hiff [.advance 1] ⟨trivial, trivial⟩).mpr (Or.inr
    ⟨⟨fun htick => htick.elim, trivial⟩, ⟨fun htick => htick.elim, trivial⟩⟩)⟩
  exact Runs.execute_cons_eq_some.mpr ⟨requested, hexchanged.asked,
    Runs.execute_cons_eq_some.mpr ⟨_, rfl,
      Runs.execute_cons_eq_some.mpr ⟨answered, hanswered, rfl⟩⟩⟩

/-- The reply comes while a refresh tick is already in the queue: the tick deletes the
observer, and the call of its handler, which waits behind, is no step. -/
theorem not_delivered_threePeers :
    ∃ answered ticked,
      Runs.execute (step (hostPlatform [])) (start (hostPlatform []) (nodeAt 1) 0)
        [.advance 50, .findNodeRequest 7 (nodeAt 2) [nodeAt 4] .null, .advance 10, .expire 0,
          .receive threePeersReply (nodeAt 2)] = some answered ∧
      answered.waitingResponses 7 = [nodeAt 3] ∧
      answered.step (hostPlatform []) (.run 0 8) = some ticked ∧
      ticked.responsesTo 7 = [] ∧ ticked.strage.findNodes.find 7 = none ∧
      ticked.io.ready = [.responseHandler 7 (nodeAt 3)] ∧
      ticked.step (hostPlatform []) (.run 0 9) = none ∧
      ¬ Delivered (hostPlatform []) 7 [nodeAt 3] answered [.run 0 8] := by
  refine ⟨_, _, rfl, by decide +kernel, rfl, by decide +kernel, by decide +kernel,
    by decide +kernel, by decide +kernel, fun hdelivered => ?_⟩
  have hserves := Runs.last_of_throughout hdelivered.serves rfl
  revert hserves
  decide +kernel

end DhtLoop

end SsP2p.Kademlia

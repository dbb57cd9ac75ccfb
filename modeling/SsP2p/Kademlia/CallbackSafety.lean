import SsP2p.Core.HostPlatform
import SsP2p.Kademlia.DhtLoop

/-!
# Callbacks and the observers they point to

A timer or a posted handler keeps a raw pointer to its observer.  Everything the
loop does leaves the observers of the callbacks that are still to be run in the
storage, up to a refresh tick, which is harmless exactly when no callback points
to an observer that has expired.
-/

namespace SsP2p.Kademlia

namespace KObserverStrage

/-- The observer that a callback points to is stored. -/
def Holds (strage : KObserverStrage) : Callback → Prop
  | .pingTimeout id | .pongHandler id | .timeoutHandler id =>
      (strage.pings.find id).isSome = true
  | .responseHandler id _ => (strage.findNodes.find id).isSome = true
  | _ => True

instance decidableHolds (strage : KObserverStrage) :
    ∀ callback, Decidable (strage.Holds callback)
  | .pingTimeout _ | .pongHandler _ | .timeoutHandler _ =>
      inferInstanceAs (Decidable (_ = true))
  | .responseHandler _ _ => inferInstanceAs (Decidable (_ = true))
  | .refreshTick | .bindingTimeout _ | .srHandler _ _ | .traversalDone _ =>
      .isTrue trivial

/-- The observer that a callback points to is stored and has expired. -/
def Expires (strage : KObserverStrage) (now : ℕ) : Callback → Prop
  | .pingTimeout id | .pongHandler id | .timeoutHandler id =>
      ∃ obs, strage.pings.find id = some obs ∧ obs.base.isExpired now = true
  | .responseHandler id _ =>
      ∃ obs, strage.findNodes.find id = some obs ∧ obs.base.isExpired now = true
  | _ => False

/-- Every observer of one storage is in the other one, in any state. -/
structure Keeps (strage next : KObserverStrage) : Prop where
  pings : ∀ id, (strage.pings.find id).isSome = true →
    (next.pings.find id).isSome = true
  findNodes : ∀ id, (strage.findNodes.find id).isSome = true →
    (next.findNodes.find id).isSome = true

theorem Keeps.refl (strage : KObserverStrage) : strage.Keeps strage :=
  ⟨fun _ hfind => hfind, fun _ hfind => hfind⟩

theorem Keeps.holds {strage next : KObserverStrage} (hkeeps : strage.Keeps next)
    {callback : Callback} (hholds : strage.Holds callback) : next.Holds callback := by
  cases callback with
  | pingTimeout id => exact hkeeps.pings id hholds
  | pongHandler id => exact hkeeps.pings id hholds
  | timeoutHandler id => exact hkeeps.pings id hholds
  | responseHandler id ep => exact hkeeps.findNodes id hholds
  | _ => trivial

theorem keeps_addPing (strage : KObserverStrage) (obs : Ping) :
    strage.Keeps (strage.addPing obs) :=
  ⟨fun _ hfind => KeyedList.isSome_find_insert.mpr (Or.inr hfind),
    fun _ hfind => hfind⟩

theorem keeps_addFindNode (strage : KObserverStrage) (obs : FindNode) :
    strage.Keeps (strage.addFindNode obs) :=
  ⟨fun _ hfind => hfind,
    fun _ hfind => KeyedList.isSome_find_insert.mpr (Or.inr hfind)⟩

theorem keeps_answerPing (strage : KObserverStrage) (id : Uuid) :
    strage.Keeps (strage.answerPing id) :=
  ⟨fun j hfind => by simpa [answerPing] using hfind, fun _ hfind => hfind⟩

theorem keeps_timeOutPing (strage : KObserverStrage) (id : Uuid) :
    strage.Keeps (strage.timeOutPing id) :=
  ⟨fun j hfind => by simpa [timeOutPing] using hfind, fun _ hfind => hfind⟩

theorem keeps_answerFindNode (strage : KObserverStrage) (id : Uuid) :
    strage.Keeps (strage.answerFindNode id) :=
  ⟨fun _ hfind => hfind, fun j hfind => by simpa [answerFindNode] using hfind⟩

/-- Deleting the expired observers leaves the target of a callback in place
unless that target has expired. -/
theorem holds_deleteExpires_iff {strage : KObserverStrage} {now : ℕ}
    {callback : Callback} (hholds : strage.Holds callback) :
    (strage.deleteExpires now).Holds callback ↔ ¬ strage.Expires now callback := by
  have hping : ∀ id, (strage.pings.find id).isSome = true →
      (((strage.deleteExpires now).pings.find id).isSome = true ↔
        ¬ ∃ obs, strage.pings.find id = some obs ∧ obs.base.isExpired now = true) := by
    intro id hfind
    obtain ⟨obs, hobs⟩ := Option.isSome_iff_exists.mp hfind
    simp [deleteExpires, KeyedList.find_filter, hobs, Option.filter]
  have hfindNode : ∀ id, (strage.findNodes.find id).isSome = true →
      (((strage.deleteExpires now).findNodes.find id).isSome = true ↔
        ¬ ∃ obs, strage.findNodes.find id = some obs ∧
          obs.base.isExpired now = true) := by
    intro id hfind
    obtain ⟨obs, hobs⟩ := Option.isSome_iff_exists.mp hfind
    simp [deleteExpires, KeyedList.find_filter, hobs, Option.filter]
  cases callback with
  | pingTimeout id => exact hping id hholds
  | pongHandler id => exact hping id hholds
  | timeoutHandler id => exact hping id hholds
  | responseHandler id ep => exact hfindNode id hholds
  | _ => exact iff_of_true trivial (fun hexpires => hexpires)

end KObserverStrage

namespace DhtLoop

variable (platform : Platform)

/-- Every callback that is still to be run points to a stored observer. -/
def NoDangling (loop : DhtLoop) : Prop :=
  ∀ callback ∈ loop.io.pending, loop.strage.Holds callback

instance (loop : DhtLoop) : Decidable loop.NoDangling :=
  inferInstanceAs (Decidable (∀ callback ∈ loop.io.pending, loop.strage.Holds callback))

/-- A refresh tick runs only while no callback points to an expired observer. -/
def QuietTick (loop : DhtLoop) : Event → Prop
  | .run position _ =>
      ∀ io, loop.io.take position = some (.refreshTick, io) →
        ∀ callback ∈ io.pending, ¬ loop.strage.Expires loop.io.now callback
  | _ => True

/-- The storage keeps its observers, and whatever is new to be run points to one
of them. -/
structure Grows (loop next : DhtLoop) : Prop where
  keeps : loop.strage.Keeps next.strage
  fresh : ∀ callback ∈ next.io.pending,
    callback ∈ loop.io.pending ∨ next.strage.Holds callback

theorem Grows.noDangling {loop next : DhtLoop} (hgrows : loop.Grows next)
    (hsafe : loop.NoDangling) : next.NoDangling := by
  intro callback hcallback
  rcases hgrows.fresh callback hcallback with hold | hholds
  · exact hgrows.keeps.holds (hsafe callback hold)
  · exact hholds

/-- Nothing is added to the queues and the storage is the same. -/
theorem grows_of_pending_eq {loop next : DhtLoop}
    (hstrage : next.strage = loop.strage)
    (hpending : next.io.pending = loop.io.pending) : loop.Grows next where
  keeps := by
    rw [hstrage]
    exact .refl _
  fresh callback hcallback := Or.inl (hpending ▸ hcallback)

variable {platform}

theorem grows_pingRequest {loop next : DhtLoop} {id : Uuid} {ep : Endpoint}
    {pongHandler timeoutHandler : Handler}
    (hrequest : loop.pingRequest platform id ep pongHandler timeoutHandler =
      some next) : loop.Grows next := by
  obtain ⟨-, payload, rfl⟩ := pingRequest_eq_some platform hrequest
  refine ⟨KObserverStrage.keeps_addPing _ _, fun callback hcallback => ?_⟩
  rw [IoContext.pending_asyncSend, IoContext.pending_asyncWait,
    Multiset.mem_cons] at hcallback
  rcases hcallback with rfl | hold
  · exact Or.inr (KeyedList.isSome_find_insert.mpr (Or.inl rfl))
  · exact Or.inl hold

theorem grows_findNodeRequest {loop next : DhtLoop} {id : Uuid} {ep : Endpoint}
    {ignoreEps : List Endpoint} {responseHandler : Handler}
    (hrequest : loop.findNodeRequest platform id ep ignoreEps responseHandler =
      some next) : loop.Grows next := by
  obtain ⟨-, payload, rfl⟩ := findNodeRequest_eq_some platform hrequest
  exact ⟨KObserverStrage.keeps_addFindNode _ _, fun callback hcallback =>
    Or.inl hcallback⟩

theorem grows_invoke {loop next : DhtLoop} {handler : Handler} {ep : Endpoint}
    {id : Uuid} (hinvoke : loop.invoke platform handler ep id = some next) :
    loop.Grows next := by
  rcases invoke_eq_some platform hinvoke with ⟨table, rfl, -, -⟩ | hrequest
  · exact grows_of_pending_eq rfl rfl
  · exact grows_pingRequest hrequest

theorem grows_timeout {loop : DhtLoop} {obs : Ping}
    (hfind : loop.strage.pings.find obs.id = some obs) :
    loop.Grows (loop.timeout obs) := by
  unfold timeout
  split_ifs with harrived
  · exact grows_of_pending_eq rfl rfl
  · refine ⟨KObserverStrage.keeps_timeOutPing _ _, fun callback hcallback => ?_⟩
    rw [IoContext.pending_post, Multiset.mem_cons] at hcallback
    rcases hcallback with rfl | hold
    · refine Or.inr ((KObserverStrage.keeps_timeOutPing _ _).pings obs.id ?_)
      rw [hfind]
      rfl
    · exact Or.inl hold

/-- Every callback but the refresh tick. -/
theorem grows_runCallback {loop next : DhtLoop} {id : Uuid} {callback : Callback}
    (htick : callback ≠ .refreshTick)
    (hrun : runCallback platform loop id callback = some next) : loop.Grows next := by
  rcases runCallback_cases platform hrun with
    ⟨obsId, obs, -, hfind, rfl⟩ | ⟨invocation, handler, ep, -, hinvoke⟩ | ⟨hrefresh, -⟩
  · have hid : obs.id = obsId := KeyedList.key_of_find hfind
    exact grows_timeout (hid ▸ hfind)
  · obtain ⟨hkeeps, hfresh⟩ := grows_invoke hinvoke
    exact ⟨hkeeps, hfresh⟩
  · exact absurd hrefresh htick

theorem grows_receive {loop : DhtLoop} {manager : DhtManager} {io : IoContext}
    {msg : Message} {ep : Endpoint}
    (hincome : loop.manager.incomeMessage platform loop.io msg ep =
      .ok (manager, io)) :
    loop.Grows { loop with
      manager := manager, io := io, received := loop.received ++ [msg] } := by
  rcases DhtManager.incomeMessage_cases hincome with
    ⟨obs, -, hfind, rfl, rfl⟩ | ⟨obs, findedEps, -, hfind, -, rfl, rfl⟩ |
    ⟨table, rfl, hanswers⟩
  · have hkeeps := KObserverStrage.keeps_answerPing loop.strage obs.id
    refine ⟨hkeeps, fun callback hcallback => ?_⟩
    simp only [Ping.incomeMessage, IoContext.pending_cancel,
      IoContext.pending_post, Multiset.mem_cons] at hcallback
    rcases hcallback with rfl | hold
    · refine Or.inr (hkeeps.pings obs.id ?_)
      rw [strage, hfind]
      rfl
    · exact Or.inl hold
  · have hkeeps := KObserverStrage.keeps_answerFindNode loop.strage obs.id
    refine ⟨hkeeps, fun callback hcallback => ?_⟩
    rw [FindNode.pending_postAll, Multiset.mem_add, Multiset.mem_coe,
      List.mem_map] at hcallback
    rcases hcallback with ⟨ep, -, rfl⟩ | hold
    · refine Or.inr (hkeeps.findNodes obs.id ?_)
      rw [strage, hfind]
      rfl
    · exact Or.inl hold
  · obtain ⟨sent, hsent⟩ := hanswers.sends
    exact grows_of_pending_eq rfl (by rw [show io = _ from hsent]; rfl)

/-- Every step that is not a refresh tick. -/
theorem grows_step {loop next : DhtLoop} {event : Event}
    (htick : ∀ position id io, event = .run position id →
      loop.io.take position ≠ some (.refreshTick, io))
    (hstep : loop.step platform event = some next) : loop.Grows next := by
  cases event with
  | pingRequest id ep pongHandler timeoutHandler => exact grows_pingRequest hstep
  | findNodeRequest id ep ignoreEps responseHandler =>
      exact grows_findNodeRequest hstep
  | receive msg ep =>
      obtain ⟨manager, io, hincome, rfl⟩ := receive_eq_some platform hstep
      exact grows_receive hincome
  | updateGlobalSelfEndpoint ep =>
      obtain rfl := Option.some.inj hstep
      exact grows_of_pending_eq rfl rfl
  | advance seconds =>
      obtain rfl := Option.some.inj hstep
      exact grows_of_pending_eq rfl rfl
  | expire position =>
      obtain ⟨io, hexpire, rfl⟩ := Option.map_eq_some_iff.mp hstep
      exact grows_of_pending_eq rfl (IoContext.pending_expire hexpire)
  | run position id =>
      obtain ⟨⟨callback, io⟩, htake, hrun⟩ := Option.bind_eq_some_iff.mp hstep
      have hnotTick : callback ≠ .refreshTick := by
        rintro rfl
        exact htick position id io rfl htake
      obtain ⟨hkeeps, hfresh⟩ := grows_runCallback hnotTick hrun
      refine ⟨hkeeps, fun other hother => ?_⟩
      rw [IoContext.pending_take htake, Multiset.mem_cons]
      exact (hfresh other hother).imp_left Or.inr

/-- After a refresh tick nothing dangles exactly when no callback pointed to an
expired observer. -/
theorem noDangling_refreshTick_iff {loop : DhtLoop} (hsafe : loop.NoDangling) :
    loop.refreshTick.NoDangling ↔
      ∀ callback ∈ loop.io.pending, ¬ loop.strage.Expires loop.io.now callback := by
  have hpending : loop.refreshTick.io.pending =
      .refreshTick ::ₘ loop.io.pending := by
    simp [refreshTick]
  simp only [NoDangling, hpending, Multiset.mem_cons, forall_eq_or_imp]
  constructor
  · rintro ⟨-, hholds⟩ callback hcallback
    exact (KObserverStrage.holds_deleteExpires_iff (hsafe callback hcallback)).mp
      (hholds callback hcallback)
  · intro hquiet
    refine ⟨trivial, fun callback hcallback => ?_⟩
    exact (KObserverStrage.holds_deleteExpires_iff (hsafe callback hcallback)).mpr
      (hquiet callback hcallback)

theorem noDangling_start (ep : Endpoint) (now : ℕ) :
    (start platform ep now).NoDangling := by
  intro callback hcallback
  simp only [start, IoContext.pending_asyncWait, IoContext.pending_start,
    Multiset.mem_cons, Multiset.notMem_zero, or_false] at hcallback
  subst hcallback
  trivial

theorem noDangling_step_iff {loop next : DhtLoop} {event : Event}
    (hsafe : loop.NoDangling) (hstep : loop.step platform event = some next) :
    next.NoDangling ↔ loop.QuietTick event := by
  by_cases htick : ∃ position id io, event = .run position id ∧
      loop.io.take position = some (.refreshTick, io)
  · obtain ⟨position, id, io, rfl, htake⟩ := htick
    simp only [step, htake, Option.bind_some] at hstep
    obtain rfl := Option.some.inj hstep
    have hpending := IoContext.pending_take htake
    have hrest : ({ loop with io := io } : DhtLoop).NoDangling := by
      intro callback hcallback
      apply hsafe callback
      rw [hpending]
      exact Multiset.mem_cons_of_mem hcallback
    have hnow : io.now = loop.io.now := IoContext.now_take htake
    rw [noDangling_refreshTick_iff hrest]
    simp only [QuietTick, htake, Option.some.injEq, Prod.mk.injEq, true_and,
      forall_eq', hnow, strage]
  · have hgrows := grows_step (fun position id io heq htake =>
      htick ⟨position, id, io, heq, htake⟩) hstep
    refine iff_of_true (hgrows.noDangling hsafe) ?_
    cases event with
    | run position id =>
        intro io htake
        exact absurd ⟨position, id, io, rfl, htake⟩ htick
    | _ => trivial

/-- A refresh tick is never stuck, so that a stuck step is not one. -/
theorem quietTick_of_stuck {loop : DhtLoop} {event : Event}
    (hstuck : loop.step platform event = none) : loop.QuietTick event := by
  cases event with
  | run position id =>
      intro io htake
      simp only [step, htake, Option.bind_some] at hstuck
      cases hstuck
  | _ => trivial

/-- Callbacks always point to stored observers in exactly those runs in which no
refresh tick runs while a callback points to an expired observer. -/
theorem throughout_noDangling_iff (ep : Endpoint) (now : ℕ) (events : List Event) :
    Runs.Throughout (step platform) NoDangling (start platform ep now) events ↔
      Runs.Meets (step platform) QuietTick (start platform ep now) events :=
  Runs.throughout_iff_meets (fun _ => True)
    (fun _ _ _ _ _ => trivial)
    (fun _ _ _ _ hsafe hstep => noDangling_step_iff hsafe hstep)
    (fun _ _ hstuck => quietTick_of_stuck hstuck) trivial (noDangling_start ep now)

/-- The timer of a ping and the refresh timer run out together.  The timer's
handler posts the timeout handler behind the tick, and the tick deletes the
observer. -/
theorem not_noDangling_timeout :
    ¬ Runs.Throughout (step (hostPlatform [])) NoDangling
      (start (hostPlatform []) (nodeAt 1) 0)
      [.advance 56, .pingRequest 1 (nodeAt 2) .null .null, .advance 4, .expire 1,
        .expire 0, .run 0 2, .run 0 3] := by
  decide +kernel

end DhtLoop

end SsP2p.Kademlia

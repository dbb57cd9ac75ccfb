import SsP2p.Ice.SrState

/-!
# Waiting for an `sr_object`

`sync_get` checks the state under the mutex and waits on the condition variable, while
the observer updates the state and wakes whoever waits, unless `async_get` was called.
The check is the wrong way round: a caller waits unless the state is pending, which it
never is, and nobody wakes a caller that comes after the callback of the timer.
-/

namespace SsP2p.Ice

open Kademlia

/-- Whether `sync_get` waits before it reads the result. -/
def SrObject.syncGetWaits (sr : SrObject) : Bool := decide (sr.state ≠ .pending)

namespace BindingLoop

/-- A consensus was reached, or the callback of the timer has run. -/
def decided (loop : BindingLoop) : Bool := loop.elected.isSome || loop.obs.isTimeout

/-- The callback of the timer is still to be run. -/
def updateDue (loop : BindingLoop) : Bool :=
  decide (.bindingTimeout loop.obs.id ∈ loop.io.pending)

def notifies (platform : Platform) (loop : BindingLoop) : Event → Bool
  | .reply srcEp responseEp =>
      !loop.obs.sr.isAsync &&
        decide (((loop.obs.addResponse srcEp responseEp).consensus platform false).state ≠
          .onHandling)
  | .run position =>
      !loop.obs.sr.isAsync &&
        decide (loop.io.ready[position]? = some (.bindingTimeout loop.obs.id))
  | .addRequestedEp _ | .asyncGet | .advance _ | .expire _ => false

end BindingLoop

inductive CallerPhase where
  | idle
  | waiting
  | woken
  deriving DecidableEq

/-- What held when a call started to wait. -/
structure SyncWait where
  decided : Bool
  updateDue : Bool
  deriving DecidableEq

/-- A value that was returned, and the endpoint of the last consensus then. -/
structure SyncReturn where
  value : Option Endpoint
  elected : Option Endpoint
  deriving DecidableEq

/-- A `binding_request` and a caller of `sync_get` with its past calls. -/
structure SyncCaller where
  loop : BindingLoop
  phase : CallerPhase
  waits : List SyncWait
  returns : List SyncReturn

namespace SyncCaller

inductive Event where
  | observer (event : BindingLoop.Event)
  /-- `sync_get` is called. -/
  | syncGet
  /-- The wait ends without a notification. -/
  | spuriousWakeup
  /-- The woken caller has the mutex again and returns. -/
  | resume
  deriving DecidableEq

variable (platform : Platform)

def start (id : Uuid) (now : ℕ) : SyncCaller := ⟨.start id now, .idle, [], []⟩

def returned (caller : SyncCaller) : SyncCaller :=
  { caller with
    phase := .idle
    returns := caller.returns ++ [⟨caller.loop.obs.sr.result, caller.loop.elected⟩] }

def step (caller : SyncCaller) : Event → Option SyncCaller
  | .observer event => (BindingLoop.step platform caller.loop event).map fun loop =>
      { caller with
        loop := loop
        phase := if caller.phase = .waiting ∧ caller.loop.notifies platform event = true
          then .woken else caller.phase }
  | .syncGet =>
      if caller.phase ≠ .idle then none
      else if caller.loop.obs.sr.syncGetWaits then some
        { caller with
          phase := .waiting
          waits := caller.waits ++ [⟨caller.loop.decided, caller.loop.updateDue⟩] }
      else some caller.returned
  | .spuriousWakeup =>
      if caller.phase = .waiting then some { caller with phase := .woken } else none
  | .resume => if caller.phase = .woken then some caller.returned else none

/-- No call waited on a decided request without an update to come, and every call has
returned the endpoint of the last consensus. -/
def NoLostWakeup (caller : SyncCaller) : Prop :=
  (∀ wait ∈ caller.waits, wait.decided = true → wait.updateDue = true) ∧
    ∀ ret ∈ caller.returns, ret.value = ret.elected

instance (caller : SyncCaller) : Decidable caller.NoLostWakeup :=
  inferInstanceAs (Decidable (_ ∧ _))

/-- `sync_get` is not called after the callback of the timer, and does not return while
the last consensus is lapsed. -/
def InTime (caller : SyncCaller) : Event → Prop
  | .syncGet => caller.phase = .idle → caller.loop.obs.isTimeout = false
  | .resume => caller.phase = .woken → caller.loop.lapsed = false
  | .observer _ | .spuriousWakeup => True

end SyncCaller

/-! ## What the observer keeps -/

namespace SrObject

theorem result_of_done {ep : Endpoint} {sr : SrObject}
    (hdone : sr.state = .done ∧ sr.globalEp = ep) : sr.result = some ep := by
  rw [result, hdone.1, hdone.2]

theorem result_of_notfound {sr : SrObject} (hnotfound : sr.state = .notfound) :
    sr.result = none := by
  rw [result, hnotfound]

end SrObject

namespace BindingLoop

variable {platform : Platform}

/-- The state is never pending, the callback of the timer is still to be run or has run,
and the result is that of the last consensus unless that has lapsed. -/
structure Coherent (loop : BindingLoop) : Prop where
  state : loop.obs.sr.state ≠ .pending
  timer : loop.io.pending.count (.bindingTimeout loop.obs.id) =
    if loop.obs.isTimeout then 0 else 1
  kept : loop.lapsed = false → loop.obs.sr.result = loop.elected
  lapsed : loop.lapsed = true → loop.elected ≠ none ∧ loop.obs.sr.result = none

theorem Coherent.updateDue_eq {loop : BindingLoop} (hcoherent : loop.Coherent) :
    loop.updateDue = !loop.obs.isTimeout := by
  have htimer := hcoherent.timer
  rw [updateDue, Bool.eq_iff_iff, decide_eq_true_iff, ← Multiset.one_le_count_iff_mem, htimer]
  cases loop.obs.isTimeout <;> simp

theorem Coherent.result_eq_iff {loop : BindingLoop} (hcoherent : loop.Coherent) :
    loop.obs.sr.result = loop.elected ↔ loop.lapsed = false := by
  cases hlapsed : loop.lapsed with
  | false => exact iff_of_true (hcoherent.kept hlapsed) rfl
  | true =>
      obtain ⟨hsome, hresult⟩ := hcoherent.lapsed hlapsed
      rw [hresult]
      exact iff_of_false (Ne.symm hsome) nofun

theorem coherent_start (id : Uuid) (now : ℕ) : (start id now).Coherent where
  state := nofun
  timer := by
    have hpending : (start id now).io.pending = .bindingTimeout id ::ₘ 0 :=
      IoContext.pending_asyncWait _ _ _
    rw [hpending]
    exact Multiset.count_cons_self _ _
  kept _ := rfl
  lapsed := nofun

/-- A change that concerns neither the timer nor the state. -/
theorem Coherent.congr {loop next : BindingLoop} (hcoherent : loop.Coherent)
    (hid : next.obs.id = loop.obs.id) (hpending : next.io.pending = loop.io.pending)
    (hsr : next.obs.sr.state = loop.obs.sr.state ∧ next.obs.sr.result = loop.obs.sr.result)
    (hisTimeout : next.obs.isTimeout = loop.obs.isTimeout)
    (helected : next.elected = loop.elected) (hlapsed : next.lapsed = loop.lapsed) :
    next.Coherent where
  state := hsr.1 ▸ hcoherent.state
  timer := by
    rw [hid, hpending, hisTimeout]
    exact hcoherent.timer
  kept hkept := by
    rw [hsr.2, helected]
    exact hcoherent.kept (hlapsed ▸ hkept)
  lapsed hlost := by
    rw [hsr.2, helected]
    exact hcoherent.lapsed (hlapsed ▸ hlost)

theorem count_answer (loop : BindingLoop) (srcEp responseEp : Endpoint) :
    (loop.obs.answer platform srcEp responseEp loop.io).pending.count
      (.bindingTimeout loop.obs.id) = loop.io.pending.count (.bindingTimeout loop.obs.id) := by
  cases loop.obs.pending_answer_cases platform srcEp responseEp loop.io with
  | inl hsame => rw [hsame]
  | inr hposted =>
      obtain ⟨ep, hposted⟩ := hposted
      rw [hposted]
      exact Multiset.count_cons_of_ne (by simp) _

theorem count_onTimeout (loop : BindingLoop) :
    (loop.obs.onTimeout platform loop.io).pending.count (.bindingTimeout loop.obs.id) =
      loop.io.pending.count (.bindingTimeout loop.obs.id) := by
  rw [BindingRequest.pending_onTimeout]
  split_ifs
  · exact Multiset.count_cons_of_ne (by simp) _
  · rfl

theorem coherent_reply {loop : BindingLoop} (hcoherent : loop.Coherent)
    (srcEp responseEp : Endpoint) : (loop.reply platform srcEp responseEp).Coherent := by
  have htimer : (loop.reply platform srcEp responseEp).io.pending.count
      (.bindingTimeout (loop.reply platform srcEp responseEp).obs.id) =
        if (loop.reply platform srcEp responseEp).obs.isTimeout then 0 else 1 := by
    simp only [reply, BindingRequest.id_answered, BindingRequest.isTimeout_answered,
      count_answer]
    exact hcoherent.timer
  cases hep : ((loop.obs.addResponse srcEp responseEp).consensus platform false).ep with
  | none =>
      have hsr := BindingRequest.sr_answered_of_none hep
      refine ⟨?_, htimer, ?_, ?_⟩
      · rw [reply, hsr]
        exact hcoherent.state
      · simp only [reply, hsr, hep, Option.none_or, Option.isNone_none, Bool.and_true]
        exact hcoherent.kept
      · simp only [reply, hsr, hep, Option.none_or, Option.isNone_none, Bool.and_true]
        exact hcoherent.lapsed
  | some ep =>
      have hdone := BindingRequest.sr_answered_of_some hep
      refine ⟨?_, htimer, fun _ => ?_, ?_⟩
      · rw [reply, hdone.1]
        decide
      · simp only [reply, hep, Option.some_or]
        exact SrObject.result_of_done hdone
      · simp [reply, hep]

/-- The callback of the timer runs, which was taken from the ready queue. -/
theorem coherent_onTimeout {loop : BindingLoop} {io : IoContext} (hcoherent : loop.Coherent)
    (htaken : loop.io.pending = .bindingTimeout loop.obs.id ::ₘ io.pending) :
    (({ loop with io := io } : BindingLoop).onTimeout platform).Coherent := by
  have hnone : io.pending.count (.bindingTimeout loop.obs.id) = 0 := by
    have htimer := hcoherent.timer
    rw [htaken, Multiset.count_cons_self] at htimer
    split_ifs at htimer
    omega
  have htimer : (({ loop with io := io } : BindingLoop).onTimeout platform).io.pending.count
      (.bindingTimeout (({ loop with io := io } : BindingLoop).onTimeout platform).obs.id) =
        0 := by
    rw [← hnone, onTimeout, BindingRequest.id_timedOut]
    exact count_onTimeout { loop with io := io }
  cases hep : (loop.obs.consensus platform false).ep with
  | none =>
      have hstate : (loop.obs.timedOut platform).sr.state = .notfound :=
        (BindingRequest.updateSr_of_none hep).2
      refine ⟨?_, htimer, ?_, ?_⟩
      · rw [onTimeout, hstate]
        decide
      · simp only [onTimeout, hep, SrObject.result_of_notfound hstate]
        cases loop.elected <;> simp
      · simp only [onTimeout, hep, SrObject.result_of_notfound hstate]
        cases loop.elected <;> simp
  | some ep =>
      have hdone : (loop.obs.timedOut platform).sr.state = .done ∧
          (loop.obs.timedOut platform).sr.globalEp = ep :=
        (BindingRequest.updateSr_of_some hep).2
      refine ⟨?_, htimer, fun _ => ?_, ?_⟩
      · rw [onTimeout, hdone.1]
        decide
      · simp only [onTimeout, hep, Option.some_or]
        exact SrObject.result_of_done hdone
      · simp [onTimeout, hep]

theorem coherent_step {loop next : BindingLoop} {event : Event} (hcoherent : loop.Coherent)
    (hstep : step platform loop event = some next) : next.Coherent := by
  cases event with
  | addRequestedEp ep =>
      obtain rfl := Option.some.inj hstep
      exact hcoherent.congr rfl rfl ⟨rfl, rfl⟩ rfl rfl rfl
  | reply srcEp responseEp =>
      obtain rfl := Option.some.inj hstep
      exact coherent_reply hcoherent srcEp responseEp
  | asyncGet =>
      obtain rfl := Option.some.inj hstep
      exact hcoherent.congr rfl rfl ⟨rfl, rfl⟩ rfl rfl rfl
  | advance seconds =>
      obtain rfl := Option.some.inj hstep
      exact hcoherent.congr rfl rfl ⟨rfl, rfl⟩ rfl rfl rfl
  | expire position =>
      obtain ⟨io, hexpire, rfl⟩ := Option.map_eq_some_iff.mp hstep
      exact hcoherent.congr rfl (IoContext.pending_expire hexpire) ⟨rfl, rfl⟩ rfl rfl rfl
  | run position =>
      obtain ⟨callback, io, htake, hcases⟩ := step_run_cases hstep
      have htaken := IoContext.pending_take htake
      cases hcases with
      | inl htimeout =>
          obtain ⟨rfl, rfl⟩ := htimeout
          exact coherent_onTimeout hcoherent htaken
      | inr hhandler =>
          obtain ⟨⟨id, ep, rfl⟩, rfl⟩ := hhandler
          have htimer := hcoherent.timer
          rw [htaken, Multiset.count_cons_of_ne (by simp)] at htimer
          exact ⟨hcoherent.state, htimer, hcoherent.kept, hcoherent.lapsed⟩

end BindingLoop

/-! ## The caller -/

namespace SyncCaller

variable {platform : Platform}

theorem coherent_step {caller next : SyncCaller} {event : Event}
    (hcoherent : caller.loop.Coherent) (hstep : step platform caller event = some next) :
    next.loop.Coherent := by
  cases event with
  | observer event =>
      obtain ⟨loop, hloop, rfl⟩ := Option.map_eq_some_iff.mp hstep
      exact BindingLoop.coherent_step hcoherent hloop
  | syncGet =>
      rw [step] at hstep
      split_ifs at hstep
      · obtain rfl := Option.some.inj hstep
        exact hcoherent
      · obtain rfl := Option.some.inj hstep
        exact hcoherent
  | spuriousWakeup =>
      rw [step] at hstep
      split_ifs at hstep
      obtain rfl := Option.some.inj hstep
      exact hcoherent
  | resume =>
      rw [step] at hstep
      split_ifs at hstep
      obtain rfl := Option.some.inj hstep
      exact hcoherent

/-- A call always waits. -/
theorem step_syncGet {caller : SyncCaller} (hcoherent : caller.loop.Coherent)
    (hidle : caller.phase = .idle) :
    step platform caller .syncGet = some
      { caller with
        phase := .waiting
        waits := caller.waits ++ [⟨caller.loop.decided, caller.loop.updateDue⟩] } := by
  rw [step, if_neg (not_not.mpr hidle), SrObject.syncGetWaits,
    if_pos (decide_eq_true hcoherent.state)]

/-- It is in vain exactly when the callback of the timer has run. -/
theorem wait_iff {loop : BindingLoop} (hcoherent : loop.Coherent) :
    (loop.decided = true → loop.updateDue = true) ↔ loop.obs.isTimeout = false := by
  rw [hcoherent.updateDue_eq, BindingLoop.decided]
  cases loop.obs.isTimeout <;> simp

theorem noLostWakeup_step_iff {caller next : SyncCaller} {event : Event}
    (hcoherent : caller.loop.Coherent) (hkept : caller.NoLostWakeup)
    (hstep : step platform caller event = some next) :
    next.NoLostWakeup ↔ caller.InTime event := by
  cases event with
  | observer event =>
      obtain ⟨loop, -, rfl⟩ := Option.map_eq_some_iff.mp hstep
      exact iff_of_true hkept trivial
  | syncGet =>
      have hidle : caller.phase = .idle := by
        by_contra hbusy
        rw [step, if_pos hbusy] at hstep
        cases hstep
      rw [step_syncGet hcoherent hidle] at hstep
      obtain rfl := Option.some.inj hstep
      simp only [NoLostWakeup, List.forall_mem_append, List.forall_mem_singleton, InTime,
        forall_prop_of_true hidle, wait_iff hcoherent]
      exact ⟨fun hboth => hboth.1.2, fun hrun => ⟨⟨hkept.1, hrun⟩, hkept.2⟩⟩
  | spuriousWakeup =>
      rw [step] at hstep
      split_ifs at hstep
      obtain rfl := Option.some.inj hstep
      exact iff_of_true hkept trivial
  | resume =>
      rw [step] at hstep
      split_ifs at hstep with hwoken
      obtain rfl := Option.some.inj hstep
      simp only [NoLostWakeup, returned, List.forall_mem_append, List.forall_mem_singleton,
        InTime, forall_prop_of_true hwoken, hcoherent.result_eq_iff]
      exact ⟨fun hboth => hboth.2.2, fun hlapsed => ⟨hkept.1, hkept.2, hlapsed⟩⟩

/-- A caller never waits in vain and returns the endpoint of the last consensus exactly
when it never calls after the callback of the timer and never returns while the last
consensus is lapsed. -/
theorem throughout_noLostWakeup_iff (platform : Platform) (id : Uuid) (now : ℕ)
    (events : List Event) :
    Runs.Throughout (step platform) NoLostWakeup (start id now) events ↔
      Runs.Meets (step platform) InTime (start id now) events := by
  apply Runs.throughout_iff_meets fun caller => caller.loop.Coherent
  · exact fun caller event next hcoherent hstep => coherent_step hcoherent hstep
  · exact fun caller event next hcoherent hkept hstep =>
      noLostWakeup_step_iff hcoherent hkept hstep
  · intro caller event hstuck
    cases event with
    | observer event => trivial
    | syncGet =>
        intro hidle
        rw [step, if_neg (not_not.mpr hidle)] at hstuck
        split_ifs at hstuck
    | spuriousWakeup => trivial
    | resume =>
        intro hwoken
        rw [step, if_pos hwoken] at hstuck
        cases hstuck
  · exact BindingLoop.coherent_start id now
  · exact ⟨nofun, nofun⟩

/-- The only node that was asked has replied, and the callback of the cancelled timer has
run: who calls `sync_get` now waits for an update that will not come. -/
theorem not_throughout_noLostWakeup_late :
    let run : List Event := [.observer (.addRequestedEp (nodeAt 2)),
      .observer (.reply (nodeAt 2) (nodeAt 1)), .observer (.run 0), .syncGet]
    ¬ Runs.Throughout (step (hostPlatform [])) NoLostWakeup (start 7 0) run ∧
      (Runs.execute (step (hostPlatform [])) (start 7 0) run).any (fun caller =>
        decide (caller.phase = .waiting ∧ caller.loop.obs.sr.result = some (nodeAt 1) ∧
          caller.loop.io.pending = 0)) = true := by
  decide +kernel

end SyncCaller

end SsP2p.Ice

import SsP2p.Ice.BindingOutcome
import SsP2p.Ice.ElectionOutcome

/-!
# The state of an `sr_object`

A `binding_request` updates its `sr_object` when it is initialised, when a reply
completes the consensus, and when the callback of its timer runs, which cancelling the
timer brings about as well.  What is stored as pending is not found, so that the
`sr_object` is never pending; apart from that it follows the consensus until a callback
finds that the thresholds are no longer met.
-/

namespace SsP2p.Ice

open Kademlia

/-- A `binding_request` with the event loop that serves it. -/
structure BindingLoop where
  obs : BindingRequest
  io : IoContext
  /-- The endpoint of the last consensus. -/
  elected : Option Endpoint
  /-- The callback of the timer has run since then, below a threshold. -/
  lapsed : Bool

namespace BindingLoop

inductive Event where
  | addRequestedEp (ep : Endpoint)
  /-- A reply arrives. -/
  | reply (srcEp responseEp : Endpoint)
  | asyncGet
  | advance (seconds : ℕ)
  /-- The timer of the wait at this position runs out. -/
  | expire (position : ℕ)
  /-- Run the ready callback at this position. -/
  | run (position : ℕ)
  deriving DecidableEq

variable (platform : Platform)

def start (id : Uuid) (now : ℕ) : BindingLoop :=
  ⟨.make id now, (BindingRequest.make id now).init (.start now), none, false⟩

def reply (srcEp responseEp : Endpoint) (loop : BindingLoop) : BindingLoop :=
  let ep := ((loop.obs.addResponse srcEp responseEp).consensus platform false).ep
  { obs := loop.obs.answered platform srcEp responseEp
    io := loop.obs.answer platform srcEp responseEp loop.io
    elected := ep.or loop.elected
    lapsed := loop.lapsed && ep.isNone }

def onTimeout (loop : BindingLoop) : BindingLoop :=
  let ep := (loop.obs.consensus platform false).ep
  { obs := loop.obs.timedOut platform
    io := loop.obs.onTimeout platform loop.io
    elected := ep.or loop.elected
    lapsed := loop.elected.isSome && ep.isNone }

def runCallback (loop : BindingLoop) : Callback → Option BindingLoop
  | .bindingTimeout id => if id = loop.obs.id then some (loop.onTimeout platform) else none
  | .srHandler _ _ => some loop
  | _ => none

def step (loop : BindingLoop) : Event → Option BindingLoop
  | .addRequestedEp ep => some { loop with obs := loop.obs.addRequestedEp ep }
  | .reply srcEp responseEp => some (loop.reply platform srcEp responseEp)
  | .asyncGet => some { loop with obs := loop.obs.asyncGet }
  | .advance seconds => some { loop with io := loop.io.advance seconds }
  | .expire position => (loop.io.expire position).map fun io => { loop with io := io }
  | .run position =>
      (loop.io.take position).bind fun taken =>
        runCallback platform { loop with io := taken.2 } taken.1

/-! ## What the state should be -/

/-- Until a consensus or the callback of the timer the `sr_object` is pending. -/
def PendingLaw (loop : BindingLoop) : Prop :=
  loop.elected = none → loop.obs.isTimeout = false → loop.obs.sr.state = .pending

/-- From a consensus on it is done with the elected endpoint, and a callback of the timer
without one leaves it not found. -/
def SettledLaw (loop : BindingLoop) : Prop :=
  (∀ ep ∈ loop.elected, loop.obs.sr.state = .done ∧ loop.obs.sr.globalEp = ep) ∧
    (loop.elected = none → loop.obs.isTimeout = true → loop.obs.sr.state = .notfound)

instance (loop : BindingLoop) : Decidable loop.PendingLaw :=
  inferInstanceAs (Decidable (_ → _))

instance (loop : BindingLoop) : Decidable loop.SettledLaw :=
  inferInstanceAs (Decidable (_ ∧ _))

def RunsTimeout (loop : BindingLoop) (event : Event) : Prop :=
  ∃ position, event = .run position ∧
    loop.io.ready[position]? = some (.bindingTimeout loop.obs.id)

/-- A callback that runs after a consensus finds both thresholds met. -/
def KeepsConsensus (loop : BindingLoop) (event : Event) : Prop :=
  loop.RunsTimeout event → loop.elected ≠ none →
    loop.obs.responses.Quorum ∧ loop.obs.responses.EnoughValid

end BindingLoop

namespace BindingRequest

variable {platform : Platform} {obs : BindingRequest}

/-- A reply without a consensus leaves the `sr_object` alone. -/
theorem sr_answered_of_none {srcEp responseEp : Endpoint}
    (hnone : ((obs.addResponse srcEp responseEp).consensus platform false).ep = none) :
    (obs.answered platform srcEp responseEp).sr = obs.sr := by
  rw [answered, settled, if_pos (updateSr_of_none hnone).1]
  rfl

theorem sr_answered_of_some {srcEp responseEp ep : Endpoint}
    (hsome : ((obs.addResponse srcEp responseEp).consensus platform false).ep = some ep) :
    (obs.answered platform srcEp responseEp).sr.state = .done ∧
      (obs.answered platform srcEp responseEp).sr.globalEp = ep := by
  obtain ⟨hdone, hsr⟩ := updateSr_of_some hsome
  have hdecided : ((obs.addResponse srcEp responseEp).consensus platform false).state ≠
      .onHandling := by
    rw [hdone]
    nofun
  rw [answered, settled, if_neg hdecided]
  exact hsr

@[simp]
theorem isTimeout_answered (srcEp responseEp : Endpoint) :
    (obs.answered platform srcEp responseEp).isTimeout = obs.isTimeout := by
  rw [answered, settled]
  split_ifs
  · rfl
  · exact isTimeout_updateSr _ _

end BindingRequest

namespace BindingLoop

variable {platform : Platform}

/-! ## One step -/

/-- What is run is the callback of the timer or the handler. -/
theorem step_run_cases {loop next : BindingLoop} {position : ℕ}
    (hstep : step platform loop (.run position) = some next) :
    ∃ callback io, loop.io.take position = some (callback, io) ∧
      ((callback = .bindingTimeout loop.obs.id ∧
          next = ({ loop with io := io } : BindingLoop).onTimeout platform) ∨
        ((∃ id ep, callback = .srHandler id ep) ∧ next = { loop with io := io })) := by
  obtain ⟨⟨callback, io⟩, htake, hrun⟩ := Option.bind_eq_some_iff.mp hstep
  refine ⟨callback, io, htake, ?_⟩
  cases callback with
  | bindingTimeout id =>
      simp only [runCallback] at hrun
      split_ifs at hrun with hid
      exact Or.inl ⟨congrArg Callback.bindingTimeout hid, (Option.some.inj hrun).symm⟩
  | srHandler id ep => exact Or.inr ⟨⟨id, ep, rfl⟩, (Option.some.inj hrun).symm⟩
  | _ => cases hrun

theorem not_runsTimeout_of_ne {loop : BindingLoop} {event : Event}
    (hother : ∀ position, event ≠ .run position) : ¬ loop.RunsTimeout event :=
  fun ⟨position, hrun, _⟩ => hother position hrun

theorem runsTimeout_run_iff {loop : BindingLoop} {position : ℕ} {callback : Callback}
    {io : IoContext} (htake : loop.io.take position = some (callback, io)) :
    loop.RunsTimeout (.run position) ↔ callback = .bindingTimeout loop.obs.id := by
  have hready := (IoContext.take_eq_some htake).1
  constructor
  · rintro ⟨other, heq, htimeout⟩
    obtain rfl := Event.run.inj heq
    rw [hready] at htimeout
    exact Option.some.inj htimeout
  · rintro rfl
    exact ⟨position, rfl, hready⟩

theorem SettledLaw.congr {loop next : BindingLoop} (hsettled : loop.SettledLaw)
    (hsr : next.obs.sr.state = loop.obs.sr.state ∧ next.obs.sr.globalEp = loop.obs.sr.globalEp)
    (hisTimeout : next.obs.isTimeout = loop.obs.isTimeout)
    (helected : next.elected = loop.elected) : next.SettledLaw := by
  rw [SettledLaw, hsr.1, hsr.2, hisTimeout, helected]
  exact hsettled

theorem settledLaw_of_done {loop : BindingLoop} {ep : Endpoint} (helected : loop.elected = some ep)
    (hdone : loop.obs.sr.state = .done ∧ loop.obs.sr.globalEp = ep) : loop.SettledLaw := by
  constructor
  · intro other hother
    rw [helected] at hother
    obtain rfl := Option.some.inj hother
    exact hdone
  · intro hnone
    rw [helected] at hnone
    cases hnone

theorem settledLaw_reply {loop : BindingLoop} (hsettled : loop.SettledLaw)
    (srcEp responseEp : Endpoint) : (loop.reply platform srcEp responseEp).SettledLaw := by
  cases hep : ((loop.obs.addResponse srcEp responseEp).consensus platform false).ep with
  | none =>
      have hsr := BindingRequest.sr_answered_of_none hep
      refine hsettled.congr ⟨congrArg SrObject.state hsr, congrArg SrObject.globalEp hsr⟩
        (BindingRequest.isTimeout_answered srcEp responseEp) ?_
      rw [reply, hep, Option.none_or]
  | some ep =>
      refine settledLaw_of_done ?_ (BindingRequest.sr_answered_of_some hep)
      rw [reply, hep, Option.some_or]

theorem settledLaw_onTimeout_iff {loop : BindingLoop} :
    (loop.onTimeout platform).SettledLaw ↔
      (loop.elected ≠ none → loop.obs.responses.Quorum ∧ loop.obs.responses.EnoughValid) := by
  rw [← BindingRequest.ep_consensus_ne_none_iff platform]
  cases hep : (loop.obs.consensus platform false).ep with
  | none =>
      have hstate : (loop.onTimeout platform).obs.sr.state = .notfound :=
        (BindingRequest.updateSr_of_none hep).2
      have helected : (loop.onTimeout platform).elected = loop.elected := by
        rw [onTimeout, hep, Option.none_or]
      rw [SettledLaw, helected]
      constructor
      · rintro ⟨hdone, -⟩ hsome
        obtain ⟨ep, hep⟩ := Option.ne_none_iff_exists'.mp hsome
        rw [hstate] at hdone
        cases (hdone ep hep).1
      · intro hkeeps
        refine ⟨fun ep hep => absurd rfl (hkeeps ?_), fun _ _ => hstate⟩
        rw [hep]
        exact Option.some_ne_none ep
  | some ep =>
      refine iff_of_true (settledLaw_of_done ?_ (BindingRequest.updateSr_of_some hep).2)
        fun _ => Option.some_ne_none ep
      rw [onTimeout, hep, Option.some_or]

/-- A step keeps the law unless it runs a callback that finds a consensus lapsed. -/
theorem settledLaw_step_iff {loop next : BindingLoop} {event : Event}
    (hsettled : loop.SettledLaw) (hstep : step platform loop event = some next) :
    next.SettledLaw ↔ loop.KeepsConsensus event := by
  have hkept : (∀ position, event ≠ .run position) → next.SettledLaw →
      (next.SettledLaw ↔ loop.KeepsConsensus event) := fun hother hnext =>
    iff_of_true hnext fun hruns => absurd hruns (not_runsTimeout_of_ne hother)
  cases event with
  | addRequestedEp ep =>
      obtain rfl := Option.some.inj hstep
      exact hkept (fun _ => nofun) (hsettled.congr ⟨rfl, rfl⟩ rfl rfl)
  | reply srcEp responseEp =>
      obtain rfl := Option.some.inj hstep
      exact hkept (fun _ => nofun) (settledLaw_reply hsettled srcEp responseEp)
  | asyncGet =>
      obtain rfl := Option.some.inj hstep
      exact hkept (fun _ => nofun) (hsettled.congr ⟨rfl, rfl⟩ rfl rfl)
  | advance seconds =>
      obtain rfl := Option.some.inj hstep
      exact hkept (fun _ => nofun) (hsettled.congr ⟨rfl, rfl⟩ rfl rfl)
  | expire position =>
      obtain ⟨io, -, rfl⟩ := Option.map_eq_some_iff.mp hstep
      exact hkept (fun _ => nofun) (hsettled.congr ⟨rfl, rfl⟩ rfl rfl)
  | run position =>
      obtain ⟨callback, io, htake, hcases⟩ := step_run_cases hstep
      rw [KeepsConsensus, runsTimeout_run_iff htake]
      cases hcases with
      | inl htimeout =>
          obtain ⟨rfl, rfl⟩ := htimeout
          rw [settledLaw_onTimeout_iff, forall_prop_of_true rfl]
      | inr hhandler =>
          obtain ⟨⟨id, ep, rfl⟩, rfl⟩ := hhandler
          exact iff_of_true (hsettled.congr ⟨rfl, rfl⟩ rfl rfl) nofun

/-! ## Whole runs -/

/-- The `sr_object` is not even pending when it was just initialised, so that the whole law
fails in every run.  The rest of it holds throughout exactly the runs in which no callback
of the timer finds that a consensus has lapsed. -/
theorem throughout_stateLaws (platform : Platform) (id : Uuid) (now : ℕ)
    (events : List Event) :
    ¬ Runs.Throughout (step platform) (fun loop => loop.PendingLaw ∧ loop.SettledLaw)
        (start id now) events ∧
      (Runs.Throughout (step platform) SettledLaw (start id now) events ↔
        Runs.Meets (step platform) KeepsConsensus (start id now) events) := by
  constructor
  · intro hthroughout
    have hpending := (Runs.first_of_throughout hthroughout).1
    cases hpending rfl rfl
  · apply Runs.throughout_iff_meets fun _ => True
    · exact fun _ _ _ _ _ => trivial
    · exact fun loop event next _ hsettled hstep => settledLaw_step_iff hsettled hstep
    · rintro loop event hstuck ⟨position, rfl, hready⟩
      simp [step, IoContext.take, hready, runCallback] at hstuck
    · exact trivial
    · exact ⟨fun ep hep => absurd hep (by simp [start]), fun _ hrun => by cases hrun⟩

/-- The only node that was asked replies, and then replies again with a loopback address:
the callback of the cancelled timer takes the consensus back. -/
theorem not_throughout_stateLaws_lapsed :
    let run : List Event := [.addRequestedEp (nodeAt 2), .reply (nodeAt 2) (nodeAt 1),
      .reply (nodeAt 2) ⟨.v4 0x7F000001#32, 8100⟩, .run 0]
    ¬ (start 7 0).PendingLaw ∧
      ¬ Runs.Throughout (step (hostPlatform [])) SettledLaw (start 7 0) run ∧
      (Runs.execute (step (hostPlatform [])) (start 7 0) run).any (fun loop =>
        decide (loop.elected = some (nodeAt 1) ∧ loop.obs.sr.state = .notfound)) = true := by
  decide +kernel

end BindingLoop

end SsP2p.Ice

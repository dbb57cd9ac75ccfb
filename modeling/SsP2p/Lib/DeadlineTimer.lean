import Mathlib.Data.List.Basic
import Mathlib.Data.Nat.Notation

/-!
# A timer that is armed again and again

Arming a timer sets its expiry time, which cancels the wait that is pending, and starts
a new wait.  The handler of a cancelled wait is queued like the one of a wait that has run
out.  A handler that arms the timer again continues the chain that it belongs to, so that
the waits and the queued handlers together are the chains that go on.
-/

namespace SsP2p

/-- The waits of a timer with their expiry times, and the tasks whose waits are over. -/
structure DeadlineTimer (Task : Type*) where
  waits : List (ℕ × Task)
  ready : List Task

namespace DeadlineTimer

variable {Task : Type*}

def idle : DeadlineTimer Task := ⟨[], []⟩

/-- `expires_from_now` and `async_wait`. -/
def arm (now delay : ℕ) (task : Task) (timer : DeadlineTimer Task) : DeadlineTimer Task where
  waits := [(now + delay, task)]
  ready := timer.ready ++ timer.waits.map Prod.snd

def expire (now position : ℕ) (timer : DeadlineTimer Task) : Option (DeadlineTimer Task) :=
  timer.waits[position]?.bind fun wait =>
    if wait.1 ≤ now then some
      { waits := timer.waits.eraseIdx position, ready := timer.ready ++ [wait.2] }
    else none

def take (position : ℕ) (timer : DeadlineTimer Task) : Option (Task × DeadlineTimer Task) :=
  timer.ready[position]?.map fun task =>
    (task, { timer with ready := timer.ready.eraseIdx position })

/-- The number of pending waits and queued tasks. -/
def continuations (timer : DeadlineTimer Task) : ℕ := timer.waits.length + timer.ready.length

theorem expire_eq_some {now position : ℕ} {timer next : DeadlineTimer Task}
    (hexpire : timer.expire now position = some next) :
    ∃ wait, timer.waits[position]? = some wait ∧ wait.1 ≤ now ∧
      next = ⟨timer.waits.eraseIdx position, timer.ready ++ [wait.2]⟩ := by
  obtain ⟨wait, hwait, hnext⟩ := Option.bind_eq_some_iff.mp hexpire
  split_ifs at hnext with hdue
  exact ⟨wait, hwait, hdue, (Option.some.inj hnext).symm⟩

theorem take_eq_some {position : ℕ} {timer rest : DeadlineTimer Task} {task : Task}
    (htake : timer.take position = some (task, rest)) :
    timer.ready[position]? = some task ∧
      rest = ⟨timer.waits, timer.ready.eraseIdx position⟩ := by
  obtain ⟨found, hfound, heq⟩ := Option.map_eq_some_iff.mp htake
  obtain ⟨rfl, rfl⟩ := Prod.mk.inj heq
  exact ⟨hfound, rfl⟩

/-! ## How many chains there are -/

/-- Arming a timer starts a chain. -/
@[simp]
theorem continuations_arm (now delay : ℕ) (task : Task) (timer : DeadlineTimer Task) :
    (timer.arm now delay task).continuations = timer.continuations + 1 := by
  simp only [continuations, arm, List.length_append, List.length_map, List.length_singleton]
  omega

/-- A wait that runs out is queued. -/
theorem continuations_expire {now position : ℕ} {timer next : DeadlineTimer Task}
    (hexpire : timer.expire now position = some next) :
    next.continuations = timer.continuations := by
  obtain ⟨wait, hwait, -, rfl⟩ := expire_eq_some hexpire
  obtain ⟨hlt, -⟩ := List.getElem?_eq_some_iff.mp hwait
  simp only [continuations, List.length_append, List.length_singleton,
    List.length_eraseIdx_of_lt hlt]
  omega

/-- A task that is run was one of the chains. -/
theorem continuations_take {position : ℕ} {timer rest : DeadlineTimer Task} {task : Task}
    (htake : timer.take position = some (task, rest)) :
    timer.continuations = rest.continuations + 1 := by
  obtain ⟨hready, rfl⟩ := take_eq_some htake
  obtain ⟨hlt, -⟩ := List.getElem?_eq_some_iff.mp hready
  simp only [continuations, List.length_eraseIdx_of_lt hlt]
  omega

theorem eq_idle_iff {timer : DeadlineTimer Task} :
    timer = idle ↔ timer.continuations = 0 := by
  cases timer
  simp [idle, continuations]

/-- The only chain is the one that is run. -/
theorem eq_idle_of_take {position : ℕ} {timer rest : DeadlineTimer Task} {task : Task}
    (hsingle : timer.continuations ≤ 1)
    (htake : timer.take position = some (task, rest)) : rest = idle := by
  rw [continuations_take htake] at hsingle
  exact eq_idle_iff.mpr (by omega)

/-! ## When they run -/

/-- No task is queued before its time. -/
structure OnTime (earliest : Task → ℕ) (now : ℕ) (timer : DeadlineTimer Task) : Prop where
  waits : ∀ wait ∈ timer.waits, earliest wait.2 ≤ wait.1
  ready : ∀ task ∈ timer.ready, earliest task ≤ now

variable {earliest : Task → ℕ} {now : ℕ}

theorem onTime_idle : OnTime earliest now idle := ⟨nofun, nofun⟩

/-- A timer without a wait is armed late enough. -/
theorem onTime_arm_idle {delay : ℕ} {task : Task} (hlate : earliest task ≤ now + delay) :
    OnTime earliest now (idle.arm now delay task) := by
  refine ⟨?_, nofun⟩
  intro wait hwait
  obtain rfl := List.mem_singleton.mp hwait
  exact hlate

theorem OnTime.mono {later : ℕ} {timer : DeadlineTimer Task}
    (honTime : OnTime earliest now timer) (hlater : now ≤ later) :
    OnTime earliest later timer :=
  ⟨honTime.waits, fun task htask => Nat.le_trans (honTime.ready task htask) hlater⟩

theorem OnTime.expire {position : ℕ} {timer next : DeadlineTimer Task}
    (honTime : OnTime earliest now timer) (hexpire : timer.expire now position = some next) :
    OnTime earliest now next := by
  obtain ⟨wait, hwait, hdue, rfl⟩ := expire_eq_some hexpire
  constructor
  · exact fun other hother => honTime.waits other (List.mem_of_mem_eraseIdx hother)
  · intro task htask
    cases List.mem_append.mp htask with
    | inl hold => exact honTime.ready task hold
    | inr hnew =>
        obtain rfl := List.mem_singleton.mp hnew
        exact Nat.le_trans (honTime.waits wait (List.mem_of_getElem? hwait)) hdue

/-- What is run is not early. -/
theorem OnTime.take {position : ℕ} {timer rest : DeadlineTimer Task} {task : Task}
    (honTime : OnTime earliest now timer)
    (htake : timer.take position = some (task, rest)) : earliest task ≤ now :=
  honTime.ready task (List.mem_of_getElem? (take_eq_some htake).1)

end DeadlineTimer

end SsP2p

import SsP2p.Core.HostPlatform
import SsP2p.Kademlia.MaintenanceLoop
import SsP2p.Net.MessagePool

/-!
# The refresh timer of the message pool

`requires_refresh` arms the timer of the pool, and `refresh_tick` arms it again while the
refresh is required.  As in the maintainer the handler does not look at its error code, so
that `requires_refresh(true)` while a wait or a queued handler is left starts a second chain
of ticks.
-/

namespace SsP2p.Net

open Kademlia

abbrev defaultMempoolRefreshTickTime : ℕ := 200

/-- A `message_pool` with its timer and the times of its ticks. -/
structure PoolTimer (platform : Platform) where
  pool : MessagePool platform
  now : ℕ
  /-- `_requires_refresh`. -/
  required : Bool
  timer : DeadlineTimer Unit
  ticks : List ℕ

namespace PoolTimer

inductive Event (platform : Platform) where
  | requiresRefresh (b : Bool)
  /-- The pool is used otherwise. -/
  | setPool (pool : MessagePool platform)
  | advance (seconds : ℕ)
  /-- The timer of the wait at this position runs out. -/
  | expire (position : ℕ)
  /-- The queued handler at this position is run. -/
  | run (position : ℕ)

variable {platform : Platform}

def start (required : Bool) (now : ℕ) : PoolTimer platform :=
  ⟨.empty, now, required, .idle, []⟩

def callRefreshTick (refresh : PoolTimer platform) : PoolTimer platform :=
  { refresh with timer := refresh.timer.arm refresh.now defaultMempoolRefreshTickTime () }

def requiresRefresh (refresh : PoolTimer platform) (b : Bool) : PoolTimer platform :=
  if b then ({ refresh with required := true } : PoolTimer platform).callRefreshTick
  else { refresh with required := false }

def refreshTick (refresh : PoolTimer platform) : PoolTimer platform :=
  let refreshed := { refresh with
    pool := refresh.pool.refreshTick refresh.now
    ticks := refresh.ticks ++ [refresh.now] }
  if refreshed.required then refreshed.callRefreshTick else refreshed

def step (refresh : PoolTimer platform) : Event platform → Option (PoolTimer platform)
  | .requiresRefresh b => some (refresh.requiresRefresh b)
  | .setPool pool => some { refresh with pool := pool }
  | .advance seconds => some { refresh with now := refresh.now + seconds }
  | .expire position =>
      (refresh.timer.expire refresh.now position).map fun timer => { refresh with timer := timer }
  | .run position =>
      (refresh.timer.take position).map fun taken =>
        ({ refresh with timer := taken.2 } : PoolTimer platform).refreshTick

/-- At most one wait or queued handler is left, and a full period lies between two
ticks. -/
def OneChain (refresh : PoolTimer platform) : Prop :=
  refresh.timer.continuations ≤ 1 ∧
    refresh.ticks.Pairwise fun first second => first + defaultMempoolRefreshTickTime ≤ second

instance (refresh : PoolTimer platform) : Decidable refresh.OneChain :=
  inferInstanceAs (Decidable (_ ∧ _))

/-- `requires_refresh(true)` is not called while a wait or a queued handler is left. -/
def RequiresIdle (refresh : PoolTimer platform) (event : Event platform) : Prop :=
  event = .requiresRefresh true → refresh.timer.continuations = 0

/-- There is one chain, whose next tick is not early. -/
structure Paced (refresh : PoolTimer platform) : Prop where
  oneChain : refresh.OneChain
  onTime : ∀ tick ∈ refresh.ticks,
    refresh.timer.OnTime (fun _ => tick + defaultMempoolRefreshTickTime) refresh.now
  past : ∀ tick ∈ refresh.ticks, tick ≤ refresh.now

theorem paced_start (required : Bool) (now : ℕ) :
    (start required now : PoolTimer platform).Paced where
  oneChain := ⟨Nat.zero_le 1, List.Pairwise.nil⟩
  onTime := nofun
  past := nofun

theorem requiresIdle_of_oneChain {refresh next : PoolTimer platform} {event : Event platform}
    (hstep : step refresh event = some next) (honeChain : next.OneChain) :
    refresh.RequiresIdle event := by
  rintro rfl
  obtain rfl := Option.some.inj hstep
  have hsingle := honeChain.1
  rw [requiresRefresh, if_pos rfl, callRefreshTick, DeadlineTimer.continuations_arm] at hsingle
  exact Nat.le_zero.mp (Nat.le_of_succ_le_succ hsingle)

/-- The idle timer is armed. -/
theorem paced_callRefreshTick {refresh : PoolTimer platform}
    (hidle : refresh.timer = .idle)
    (hspaced : refresh.ticks.Pairwise fun first second =>
      first + defaultMempoolRefreshTickTime ≤ second)
    (hpast : ∀ tick ∈ refresh.ticks, tick ≤ refresh.now) : refresh.callRefreshTick.Paced where
  oneChain := by
    refine ⟨?_, hspaced⟩
    rw [callRefreshTick, hidle]
    exact le_rfl
  onTime tick htick := by
    rw [callRefreshTick, hidle]
    exact DeadlineTimer.onTime_arm_idle (Nat.add_le_add_right (hpast tick htick) _)
  past := hpast

/-- The only chain ticks. -/
theorem paced_refreshTick {refresh : PoolTimer platform} {position : ℕ} {task : Unit}
    {rest : DeadlineTimer Unit} (hpaced : refresh.Paced)
    (htake : refresh.timer.take position = some (task, rest)) :
    ({ refresh with timer := rest } : PoolTimer platform).refreshTick.Paced := by
  obtain rfl := DeadlineTimer.eq_idle_of_take hpaced.oneChain.1 htake
  have hdue : ∀ tick ∈ refresh.ticks, tick + defaultMempoolRefreshTickTime ≤ refresh.now :=
    fun tick htick => (hpaced.onTime tick htick).take htake
  have hspaced : (refresh.ticks ++ [refresh.now]).Pairwise fun first second =>
      first + defaultMempoolRefreshTickTime ≤ second := by
    rw [List.pairwise_append]
    refine ⟨hpaced.oneChain.2, List.pairwise_singleton _ _, fun first hfirst second hsecond => ?_⟩
    obtain rfl := List.mem_singleton.mp hsecond
    exact hdue first hfirst
  have hpast : ∀ tick ∈ refresh.ticks ++ [refresh.now], tick ≤ refresh.now := by
    intro tick htick
    cases List.mem_append.mp htick with
    | inl hold => exact hpaced.past tick hold
    | inr hlast => exact (List.mem_singleton.mp hlast).le
  rw [refreshTick]
  split_ifs
  · exact paced_callRefreshTick rfl hspaced hpast
  · exact ⟨⟨Nat.zero_le 1, hspaced⟩, fun _ _ => DeadlineTimer.onTime_idle, hpast⟩

theorem paced_step {refresh next : PoolTimer platform} {event : Event platform}
    (hpaced : refresh.Paced) (hidle : refresh.RequiresIdle event)
    (hstep : step refresh event = some next) : next.Paced := by
  cases event with
  | requiresRefresh b =>
      obtain rfl := Option.some.inj hstep
      cases b with
      | false => exact ⟨hpaced.oneChain, hpaced.onTime, hpaced.past⟩
      | true =>
          have hstopped : refresh.timer = .idle := DeadlineTimer.eq_idle_iff.mpr (hidle rfl)
          exact paced_callRefreshTick hstopped hpaced.oneChain.2 hpaced.past
  | setPool pool =>
      obtain rfl := Option.some.inj hstep
      exact ⟨hpaced.oneChain, hpaced.onTime, hpaced.past⟩
  | advance seconds =>
      obtain rfl := Option.some.inj hstep
      exact ⟨hpaced.oneChain,
        fun tick htick => (hpaced.onTime tick htick).mono (Nat.le_add_right _ _),
        fun tick htick => Nat.le_add_right_of_le (hpaced.past tick htick)⟩
  | expire position =>
      obtain ⟨timer, hexpire, rfl⟩ := Option.map_eq_some_iff.mp hstep
      refine ⟨⟨?_, hpaced.oneChain.2⟩, ?_, hpaced.past⟩
      · rw [DeadlineTimer.continuations_expire hexpire]
        exact hpaced.oneChain.1
      · exact fun tick htick => (hpaced.onTime tick htick).expire hexpire
  | run position =>
      obtain ⟨taken, htake, rfl⟩ := Option.map_eq_some_iff.mp hstep
      exact paced_refreshTick hpaced htake

/-- There is one chain, with a full period between its ticks, in exactly the runs that call
`requires_refresh(true)` only when no wait and no queued handler is left. -/
theorem throughout_oneChain_iff (required : Bool) (now : ℕ) (events : List (Event platform)) :
    Runs.Throughout step OneChain (start required now) events ↔
      Runs.Meets step RequiresIdle (start required now) events := by
  constructor
  · apply Runs.meets_of_throughout fun _ => True
    · exact fun _ _ _ _ _ => trivial
    · exact fun refresh event next _ _ hstep honeChain =>
        requiresIdle_of_oneChain hstep honeChain
    · rintro refresh event hstuck rfl
      cases hstuck
    · exact trivial
  · apply Runs.throughout_of_meets Paced
    · exact fun refresh event next hpaced hidle hstep => paced_step hpaced hidle hstep
    · exact fun refresh hpaced => hpaced.oneChain
    · exact paced_start required now

/-- The maintainer has one loop, and the pool one chain of ticks, in exactly the runs in
which neither is started while it goes on. -/
theorem one_loop_each_iff (platform : Platform) :
    (∀ (ep : Endpoint) (now : ℕ) (events : List MaintainedDht.Event),
      Runs.Throughout (MaintenanceLoop.step platform) MaintenanceLoop.OneLoop
          (MaintenanceLoop.start platform ep now) events ↔
        Runs.Meets (MaintenanceLoop.step platform) (MaintenanceLoop.StartsIdle platform)
          (MaintenanceLoop.start platform ep now) events) ∧
      ∀ (required : Bool) (now : ℕ) (events : List (Event platform)),
        Runs.Throughout step OneChain (start required now) events ↔
          Runs.Meets step RequiresIdle (start required now) events :=
  ⟨MaintenanceLoop.throughout_oneLoop_iff platform, throughout_oneChain_iff⟩

/-- A second `dht_manager::start` or `requires_refresh(true)` at once: two chains, of which
the cancelled one ticks at the same time. -/
theorem not_one_loop_each_twice :
    let refresh : PoolTimer (hostPlatform []) := start true 0
    let calls : List (Event (hostPlatform [])) := [.requiresRefresh true,
      .requiresRefresh true, .run 0, .run 0]
    ¬ Runs.Throughout (MaintenanceLoop.step (hostPlatform [])) MaintenanceLoop.OneLoop
        (MaintenanceLoop.start (hostPlatform []) (nodeAt 1) 0) [.start [], .start []] ∧
      ¬ Runs.Throughout step OneChain refresh calls ∧
      (Runs.execute step refresh calls).any (fun last =>
        decide (last.timer.continuations = 2 ∧ last.ticks = [0, 0])) = true := by
  decide +kernel

end PoolTimer

end SsP2p.Net

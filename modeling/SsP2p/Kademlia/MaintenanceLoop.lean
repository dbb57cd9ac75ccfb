import SsP2p.Kademlia.ConnectionMaintainer
import SsP2p.Lib.DeadlineTimer

/-!
# The maintenance loop

`tick` and `get_remote_nodes` arm the timer of the maintainer for each other.  Their
handlers take no error code, so that a wait that is cancelled runs like one that has run
out.  `dht_manager::start` while a wait or a queued handler is left thus starts a second
chain, and the two cancel each other's waits without end; otherwise there is one chain,
and its rounds are a full period apart.
-/

namespace SsP2p.Kademlia

/-- The time that `send_refresh_ping` leaves for the answers. -/
abbrev refreshPingTime : ℕ := defaultPingResponseTimeout + 1

abbrev shortestTickTime : ℕ := 10

namespace MaintainerTask

/-- What a task arms the timer for. -/
def other : MaintainerTask → MaintainerTask
  | .tick => .getRemoteNodes
  | .getRemoteNodes => .tick

def shortestDelay : MaintainerTask → ℕ
  | .tick => refreshPingTime
  | .getRemoteNodes => shortestTickTime

end MaintainerTask

structure RefreshPingRound where
  time : ℕ
  /-- The timer has brought it about, not `dht_manager::start`. -/
  byTimer : Bool
  deriving DecidableEq

/-- The time that lies between a round and the ones before it. -/
def RefreshPingRound.gap (round : RefreshPingRound) : ℕ :=
  if round.byTimer then refreshPingTime + shortestTickTime else refreshPingTime

/-- A `dht_manager` with the refresh pings that it has sent. -/
structure MaintenanceLoop where
  dht : MaintainedDht
  rounds : List RefreshPingRound

namespace MaintainedDht

def timer (dht : MaintainedDht) : DeadlineTimer MaintainerTask := ⟨dht.waits, dht.ready⟩

def now (dht : MaintainedDht) : ℕ := dht.loop.io.now

/-- The round of refresh pings that a step consists of. -/
def roundOf (dht : MaintainedDht) : Event → List RefreshPingRound
  | .start _ => [⟨dht.now, false⟩]
  | .runTask position _ =>
      if dht.ready[position]? = some .tick ∧ dht.requiresTick = true then [⟨dht.now, true⟩]
      else []
  | _ => []

variable {platform : Platform}

@[simp]
theorem timer_setTimer (dht : MaintainedDht) (delay : ℕ) (task : MaintainerTask) :
    (dht.setTimer delay task).timer = dht.timer.arm dht.now delay task := rfl

end MaintainedDht

/-! ## The clock -/

theorem DhtManager.now_of_incomeMessage {platform : Platform} {manager next : DhtManager}
    {io nextIo : IoContext} {msg : Message} {ep : Endpoint}
    (hincome : manager.incomeMessage platform io msg ep = .ok (next, nextIo)) :
    nextIo.now = io.now := by
  rcases incomeMessage_cases hincome with ⟨obs, -, -, -, rfl⟩ | ⟨obs, findedEps, -, -, -, -, rfl⟩ |
    ⟨table, -, hanswers⟩
  · rfl
  · rw [FindNode.postAll_eq]
  · obtain ⟨sent, hsent⟩ := hanswers.sends
    have hnow := congrArg IoContext.now hsent
    exact hnow

namespace DhtLoop

variable {platform : Platform}

theorem now_pingRequest {loop next : DhtLoop} {id : Uuid} {ep : Endpoint}
    {pongHandler timeoutHandler : Handler}
    (hrequest : loop.pingRequest platform id ep pongHandler timeoutHandler = some next) :
    next.io.now = loop.io.now := by
  obtain ⟨-, payload, rfl⟩ := pingRequest_eq_some platform hrequest
  rfl

theorem now_findNodeRequest {loop next : DhtLoop} {id : Uuid} {ep : Endpoint}
    {ignoreEps : List Endpoint} {responseHandler : Handler}
    (hrequest : loop.findNodeRequest platform id ep ignoreEps responseHandler = some next) :
    next.io.now = loop.io.now := by
  obtain ⟨-, payload, rfl⟩ := findNodeRequest_eq_some platform hrequest
  rfl

theorem now_sendRefreshPing {loop last : DhtLoop} {ids rest : List Uuid}
    (hround : loop.sendRefreshPing platform ids = some (last, rest)) :
    last.io.now = loop.io.now := by
  rw [sendRefreshPing_eq] at hround
  exact Supply.invariant_of_forEach (fun state : DhtLoop => state.io.now = loop.io.now)
    (fun _ _ _ _ _ hnow hping => (now_pingRequest hping).trans hnow) rfl hround

theorem now_findNodeFrom {requestEps : List Endpoint} {loop last : DhtLoop}
    {ids rest : List Uuid}
    (hround : loop.findNodeFrom platform requestEps ids = some (last, rest)) :
    last.io.now = loop.io.now :=
  Supply.invariant_of_forEach (fun state : DhtLoop => state.io.now = loop.io.now)
    (fun _ _ _ _ _ hnow hrequest => (now_findNodeRequest hrequest).trans hnow) rfl hround

theorem now_invoke {loop next : DhtLoop} {handler : Handler} {ep : Endpoint} {id : Uuid}
    (hinvoke : loop.invoke platform handler ep id = some next) :
    next.io.now = loop.io.now := by
  cases invoke_eq_some platform hinvoke with
  | inl htable =>
      obtain ⟨table, rfl, -⟩ := htable
      rfl
  | inr hping => exact now_pingRequest hping

theorem now_runCallback {loop next : DhtLoop} {id : Uuid} {callback : Callback}
    (hrun : loop.runCallback platform id callback = some next) :
    next.io.now = loop.io.now := by
  cases callback with
  | pingTimeout obsId =>
      obtain ⟨obs, -, rfl⟩ := Option.map_eq_some_iff.mp hrun
      rw [timeout]
      split <;> rfl
  | pongHandler obsId =>
      obtain ⟨obs, -, hinvoke⟩ := Option.bind_eq_some_iff.mp hrun
      have hnow := now_invoke hinvoke
      exact hnow
  | timeoutHandler obsId =>
      obtain ⟨obs, -, hinvoke⟩ := Option.bind_eq_some_iff.mp hrun
      have hnow := now_invoke hinvoke
      exact hnow
  | responseHandler obsId ep =>
      obtain ⟨obs, -, hinvoke⟩ := Option.bind_eq_some_iff.mp hrun
      have hnow := now_invoke hinvoke
      exact hnow
  | refreshTick =>
      obtain rfl := Option.some.inj hrun
      rfl
  | _ => cases hrun

/-- The clock never goes back. -/
theorem now_le_step {loop next : DhtLoop} {event : Event}
    (hstep : loop.step platform event = some next) : loop.io.now ≤ next.io.now := by
  cases event with
  | pingRequest id ep pongHandler timeoutHandler => exact (now_pingRequest hstep).ge
  | findNodeRequest id ep ignoreEps responseHandler => exact (now_findNodeRequest hstep).ge
  | receive msg ep =>
      obtain ⟨manager, io, hincome, rfl⟩ := receive_eq_some platform hstep
      exact (DhtManager.now_of_incomeMessage hincome).ge
  | updateGlobalSelfEndpoint ep =>
      obtain rfl := Option.some.inj hstep
      exact le_rfl
  | advance seconds =>
      obtain rfl := Option.some.inj hstep
      exact Nat.le_add_right _ _
  | expire position =>
      obtain ⟨io, hexpire, rfl⟩ := Option.map_eq_some_iff.mp hstep
      obtain ⟨wait, -, rfl⟩ := IoContext.expire_eq_some hexpire
      exact le_rfl
  | run position id =>
      obtain ⟨taken, htake, hrun⟩ := Option.bind_eq_some_iff.mp hstep
      have hnow := now_runCallback hrun
      exact (hnow.trans (IoContext.now_take htake)).ge

end DhtLoop

namespace MaintainedDht

variable {platform : Platform}

/-! ## What a step does to the timer -/

theorem tick_of_requires {dht next : MaintainedDht} {ids : List Uuid}
    (hrequires : dht.requiresTick = true) (htick : dht.tick platform ids = some next) :
    next.timer = dht.timer.arm dht.now refreshPingTime .getRemoteNodes ∧
      next.now = dht.now ∧ next.requiresTick = true := by
  rw [tick, if_pos hrequires] at htick
  obtain ⟨rest, hround, rfl⟩ := Option.map_eq_some_iff.mp htick
  have hnow : rest.1.io.now = dht.now := DhtLoop.now_sendRefreshPing hround
  refine ⟨?_, hnow, hrequires⟩
  rw [timer_setTimer, now, hnow]
  rfl

theorem tickDone_of_requires {dht : MaintainedDht} (hrequires : dht.requiresTick = true) :
    ∃ delay, shortestTickTime ≤ delay ∧
      dht.tickDone.timer = dht.timer.arm dht.now delay .tick ∧ dht.tickDone.now = dht.now := by
  rw [tickDone, if_pos hrequires]
  refine ⟨_, ?_, rfl, rfl⟩
  split_ifs with hfew
  · exact le_rfl
  · rw [Nat.not_lt, minimumNodes] at hfew
    rw [shortestTickTime]
    omega

theorem getRemoteNodes_eq_some {dht next : MaintainedDht} {ids : List Uuid}
    (hget : dht.getRemoteNodes platform ids = some next) :
    ∃ middle : MaintainedDht, middle.timer = dht.timer ∧ middle.now = dht.now ∧
      middle.requiresTick = dht.requiresTick ∧ next = middle.tickDone := by
  rw [getRemoteNodes] at hget
  split_ifs at hget
  · obtain ⟨rest, hround, rfl⟩ := Option.map_eq_some_iff.mp hget
    exact ⟨{ dht with loop := rest.1 }, rfl, DhtLoop.now_findNodeFrom hround, rfl, rfl⟩
  · exact ⟨dht, rfl, rfl, rfl, (Option.some.inj hget).symm⟩

/-- `dht_manager::start` arms the timer. -/
theorem timer_start {dht next : MaintainedDht} {ids : List Uuid}
    (hstep : step platform dht (.start ids) = some next) :
    next.timer = dht.timer.arm dht.now refreshPingTime .getRemoteNodes ∧
      next.now = dht.now := by
  have htick : ({ dht with requiresTick := true } : MaintainedDht).tick platform ids =
    some next := hstep
  obtain ⟨htimer, hnow, -⟩ := tick_of_requires rfl htick
  exact ⟨htimer, hnow⟩

theorem timer_expireTimer {dht next : MaintainedDht} {position : ℕ}
    (hstep : step platform dht (.expireTimer position) = some next) :
    dht.timer.expire dht.now position = some next.timer ∧ next.now = dht.now := by
  obtain ⟨wait, hwait, hnext⟩ := Option.bind_eq_some_iff.mp hstep
  split_ifs at hnext with hdue
  obtain rfl := Option.some.inj hnext
  have hdueNow : wait.1 ≤ dht.now := hdue
  have hwaitTimer : dht.timer.waits[position]? = some wait := hwait
  refine ⟨?_, rfl⟩
  rw [DeadlineTimer.expire, hwaitTimer, Option.bind_some, if_pos hdueNow]
  rfl

/-- A handler that is run arms the timer for the other one, unless the maintainer was
stopped. -/
theorem timer_runTask {dht next : MaintainedDht} {position : ℕ} {ids : List Uuid}
    (hstep : step platform dht (.runTask position ids) = some next) :
    ∃ task rest, dht.timer.take position = some (task, rest) ∧ next.now = dht.now ∧
      ((dht.requiresTick = false ∧ next.timer = rest) ∨
        (dht.requiresTick = true ∧ ∃ delay, task.shortestDelay ≤ delay ∧
          next.timer = rest.arm dht.now delay task.other)) := by
  obtain ⟨task, hready, hrun⟩ := Option.bind_eq_some_iff.mp hstep
  let rest : DeadlineTimer MaintainerTask := ⟨dht.waits, dht.ready.eraseIdx position⟩
  let taken : MaintainedDht := { dht with ready := dht.ready.eraseIdx position }
  have htake : dht.timer.take position = some (task, rest) :=
    Option.map_eq_some_iff.mpr ⟨task, hready, rfl⟩
  refine ⟨task, rest, htake, ?_⟩
  cases task with
  | tick =>
      have htick : taken.tick platform ids = some next := hrun
      cases hrequires : dht.requiresTick with
      | false =>
          rw [tick, if_neg (by simp [taken, hrequires])] at htick
          obtain rfl := Option.some.inj htick
          exact ⟨rfl, Or.inl ⟨rfl, rfl⟩⟩
      | true =>
          have htaken : taken.requiresTick = true := hrequires
          obtain ⟨htimer, hnow, -⟩ := tick_of_requires htaken htick
          exact ⟨hnow, Or.inr ⟨rfl, refreshPingTime, le_rfl, htimer⟩⟩
  | getRemoteNodes =>
      have hget : taken.getRemoteNodes platform ids = some next := hrun
      obtain ⟨middle, htimer, hnow, hmiddle, rfl⟩ := getRemoteNodes_eq_some hget
      cases hrequires : dht.requiresTick with
      | false =>
          have hstopped : ¬ middle.requiresTick = true := by simp [hmiddle, taken, hrequires]
          simp only [tickDone, if_neg hstopped]
          exact ⟨hnow, Or.inl ⟨trivial, htimer⟩⟩
      | true =>
          obtain ⟨delay, hdelay, harmed, hkept⟩ :=
            tickDone_of_requires (hmiddle.trans hrequires)
          refine ⟨hkept.trans hnow, Or.inr ⟨rfl, delay, hdelay, ?_⟩⟩
          rw [harmed, htimer, hnow]
          rfl

theorem timer_loopStep {dht next : MaintainedDht} {event : DhtLoop.Event}
    (hstep : dht.loopStep platform event = some next) :
    next.timer = dht.timer ∧ dht.now ≤ next.now := by
  obtain ⟨loop, hloop, rfl⟩ := loopStep_eq_some platform hstep
  exact ⟨rfl, DhtLoop.now_le_step hloop⟩

/-- The other steps do not concern the timer. -/
theorem timer_other {dht next : MaintainedDht} {event : Event}
    (hstep : step platform dht event = some next)
    (hstart : ∀ ids, event ≠ .start ids)
    (hexpire : ∀ position, event ≠ .expireTimer position)
    (hrun : ∀ position ids, event ≠ .runTask position ids) :
    next.timer = dht.timer ∧ dht.now ≤ next.now := by
  cases event with
  | receive msg ep =>
      let noted : MaintainedDht :=
        { dht with arrivals := dht.arrivals ++ [⟨msg, ep, dht.loop.io.sent⟩] }
      have hnext : (noted.loopStep platform (.receive msg ep)).getD noted = next :=
        Option.some.inj hstep
      cases hreceive : noted.loopStep platform (.receive msg ep) with
      | none =>
          rw [hreceive, Option.getD_none] at hnext
          subst hnext
          exact ⟨rfl, le_rfl⟩
      | some received =>
          rw [hreceive, Option.getD_some] at hnext
          subst hnext
          have hkept := timer_loopStep hreceive
          exact hkept
  | autoUpdate ep =>
      obtain rfl := Option.some.inj hstep
      exact ⟨rfl, le_rfl⟩
  | autoUpdateBatch eps =>
      obtain rfl := Option.some.inj hstep
      exact ⟨rfl, le_rfl⟩
  | updateGlobalSelfEndpoint ep => exact timer_loopStep hstep
  | start ids => exact absurd rfl (hstart ids)
  | stop =>
      obtain rfl := Option.some.inj hstep
      exact ⟨rfl, le_rfl⟩
  | advance seconds => exact timer_loopStep hstep
  | expire position => exact timer_loopStep hstep
  | run position id => exact timer_loopStep hstep
  | expireTimer position => exact absurd rfl (hexpire position)
  | runTask position ids => exact absurd rfl (hrun position ids)

end MaintainedDht

/-! ## One loop -/

namespace MaintenanceLoop

variable (platform : Platform)

def start (ep : Endpoint) (now : ℕ) : MaintenanceLoop := ⟨.make platform ep now, []⟩

def step (loop : MaintenanceLoop) (event : MaintainedDht.Event) : Option MaintenanceLoop :=
  (loop.dht.step platform event).map fun dht =>
    { dht := dht, rounds := loop.rounds ++ loop.dht.roundOf event }

/-- At most one wait or queued handler is left, and a full period lies between two
rounds. -/
def OneLoop (loop : MaintenanceLoop) : Prop :=
  loop.dht.timer.continuations ≤ 1 ∧
    loop.rounds.Pairwise fun first second => first.time + second.gap ≤ second.time

instance (loop : MaintenanceLoop) : Decidable loop.OneLoop :=
  inferInstanceAs (Decidable (_ ∧ _))

/-- `dht_manager::start` is not called while a wait or a queued handler is left; a call
without ids for its pings is no step. -/
def StartsIdle (loop : MaintenanceLoop) (event : MaintainedDht.Event) : Prop :=
  ∀ ids, event = .start ids → step platform loop event ≠ none →
    loop.dht.timer.continuations = 0

/-- The time before which a task is not queued after this round. -/
def earliest (round : RefreshPingRound) : MaintainerTask → ℕ
  | .getRemoteNodes => round.time + refreshPingTime
  | .tick => round.time + (refreshPingTime + shortestTickTime)

/-- There is one loop, whose next handler is not early, and whose end is not early
either. -/
structure Paced (loop : MaintenanceLoop) : Prop where
  oneLoop : loop.OneLoop
  onTime : ∀ round ∈ loop.rounds, loop.dht.timer.OnTime (earliest round) loop.dht.now
  ended : loop.dht.timer.continuations = 0 → ∀ round ∈ loop.rounds,
    round.time + refreshPingTime ≤ loop.dht.now

variable {platform}

theorem step_eq_some {loop next : MaintenanceLoop} {event : MaintainedDht.Event}
    (hstep : step platform loop event = some next) :
    loop.dht.step platform event = some next.dht ∧
      next.rounds = loop.rounds ++ loop.dht.roundOf event := by
  obtain ⟨dht, hdht, rfl⟩ := Option.map_eq_some_iff.mp hstep
  exact ⟨hdht, rfl⟩

theorem paced_start (ep : Endpoint) (now : ℕ) : (start platform ep now).Paced where
  oneLoop := ⟨Nat.zero_le 1, List.Pairwise.nil⟩
  onTime := nofun
  ended _ := nofun

/-- A call of `start` is one chain more. -/
theorem continuations_start {loop next : MaintenanceLoop} {ids : List Uuid}
    (hstep : step platform loop (.start ids) = some next) :
    next.dht.timer.continuations = loop.dht.timer.continuations + 1 := by
  rw [(MaintainedDht.timer_start (step_eq_some hstep).1).1, DeadlineTimer.continuations_arm]

theorem startsIdle_of_oneLoop {loop next : MaintenanceLoop} {event : MaintainedDht.Event}
    (hstep : step platform loop event = some next) (honeLoop : next.OneLoop) :
    loop.StartsIdle platform event := by
  rintro ids rfl -
  have hsingle := honeLoop.1
  rw [continuations_start hstep] at hsingle
  omega

/-! ## One step -/

theorem paced_of_idle {loop : MaintenanceLoop} (htimer : loop.dht.timer = .idle)
    (hspaced : loop.rounds.Pairwise fun first second => first.time + second.gap ≤ second.time)
    (hended : ∀ round ∈ loop.rounds, round.time + refreshPingTime ≤ loop.dht.now) :
    loop.Paced where
  oneLoop := by
    refine ⟨?_, hspaced⟩
    rw [htimer]
    exact Nat.zero_le 1
  onTime round _ := by
    rw [htimer]
    exact DeadlineTimer.onTime_idle
  ended _ := hended

theorem paced_of_arm {loop : MaintenanceLoop} {delay : ℕ} {task : MaintainerTask}
    (htimer : loop.dht.timer = DeadlineTimer.idle.arm loop.dht.now delay task)
    (hspaced : loop.rounds.Pairwise fun first second => first.time + second.gap ≤ second.time)
    (hlate : ∀ round ∈ loop.rounds, earliest round task ≤ loop.dht.now + delay) :
    loop.Paced where
  oneLoop := by
    refine ⟨?_, hspaced⟩
    rw [htimer]
    exact le_rfl
  onTime round hround := by
    rw [htimer]
    exact DeadlineTimer.onTime_arm_idle (hlate round hround)
  ended hidle := by
    rw [htimer] at hidle
    cases hidle

theorem spaced_append {rounds : List RefreshPingRound} {round : RefreshPingRound}
    (hspaced : rounds.Pairwise fun first second => first.time + second.gap ≤ second.time)
    (hlate : ∀ first ∈ rounds, first.time + round.gap ≤ round.time) :
    (rounds ++ [round]).Pairwise fun first second =>
      first.time + second.gap ≤ second.time := by
  rw [List.pairwise_append]
  refine ⟨hspaced, List.pairwise_singleton _ _, fun first hfirst second hsecond => ?_⟩
  obtain rfl := List.mem_singleton.mp hsecond
  exact hlate first hfirst

/-- `dht_manager::start` after the loop has ended. -/
theorem paced_start_idle {loop next : MaintenanceLoop} {ids : List Uuid}
    (hpaced : loop.Paced) (hidle : loop.dht.timer.continuations = 0)
    (hstep : step platform loop (.start ids) = some next) : next.Paced := by
  obtain ⟨hdht, hrounds⟩ := step_eq_some hstep
  obtain ⟨htimer, hnow⟩ := MaintainedDht.timer_start hdht
  have hended := hpaced.ended hidle
  have hnew : next.rounds = loop.rounds ++ [⟨loop.dht.now, false⟩] := hrounds
  rw [DeadlineTimer.eq_idle_iff.mpr hidle, ← hnow] at htimer
  apply paced_of_arm htimer
  · rw [hnew]
    exact spaced_append hpaced.oneLoop.2 hended
  · intro round hround
    rw [hnew] at hround
    rw [earliest, hnow, Nat.add_le_add_iff_right]
    cases List.mem_append.mp hround with
    | inl hold => exact (Nat.le_add_right _ _).trans (hended round hold)
    | inr hlast =>
        obtain rfl := List.mem_singleton.mp hlast
        exact le_rfl

/-- The handler of the only chain is run. -/
theorem paced_runTask {loop next : MaintenanceLoop} {position : ℕ} {ids : List Uuid}
    (hpaced : loop.Paced)
    (hstep : step platform loop (.runTask position ids) = some next) : next.Paced := by
  obtain ⟨hdht, hrounds⟩ := step_eq_some hstep
  obtain ⟨task, rest, htake, hnow, hcases⟩ := MaintainedDht.timer_runTask hdht
  obtain rfl := DeadlineTimer.eq_idle_of_take hpaced.oneLoop.1 htake
  have hready : loop.dht.ready[position]? = some task := (DeadlineTimer.take_eq_some htake).1
  have hdue : ∀ round ∈ loop.rounds, earliest round task ≤ loop.dht.now :=
    fun round hround => (hpaced.onTime round hround).take htake
  have hended : ∀ round ∈ loop.rounds, round.time + refreshPingTime ≤ loop.dht.now := by
    intro round hround
    have hearliest := hdue round hround
    cases task with
    | tick =>
        rw [earliest] at hearliest
        omega
    | getRemoteNodes => exact hearliest
  rcases hcases with ⟨hstopped, htimer⟩ | ⟨hrequires, delay, hdelay, htimer⟩
  · have hkept : next.rounds = loop.rounds := by
      rw [hrounds, MaintainedDht.roundOf, if_neg (by simp [hstopped]), List.append_nil]
    apply paced_of_idle htimer
    · rw [hkept]
      exact hpaced.oneLoop.2
    · rw [hkept, hnow]
      exact hended
  · rw [← hnow] at htimer
    cases task with
    | tick =>
        have hnew : next.rounds = loop.rounds ++ [⟨loop.dht.now, true⟩] := by
          rw [hrounds, MaintainedDht.roundOf, if_pos ⟨hready, hrequires⟩]
        apply paced_of_arm htimer
        · rw [hnew]
          exact spaced_append hpaced.oneLoop.2 hdue
        · intro round hround
          rw [hnew] at hround
          simp only [MaintainerTask.other, MaintainerTask.shortestDelay, earliest, hnow] at hdelay ⊢
          cases List.mem_append.mp hround with
          | inl hold =>
              have hpast := hended round hold
              omega
          | inr hlast =>
              obtain rfl := List.mem_singleton.mp hlast
              exact Nat.add_le_add_left hdelay _
    | getRemoteNodes =>
        have hkept : next.rounds = loop.rounds := by
          rw [hrounds, MaintainedDht.roundOf, if_neg (by simp [hready]), List.append_nil]
        apply paced_of_arm htimer
        · rw [hkept]
          exact hpaced.oneLoop.2
        · intro round hround
          rw [hkept] at hround
          have hpast := hended round hround
          simp only [MaintainerTask.other, MaintainerTask.shortestDelay, earliest, hnow] at hdelay ⊢
          omega

theorem paced_expireTimer {loop next : MaintenanceLoop} {position : ℕ} (hpaced : loop.Paced)
    (hstep : step platform loop (.expireTimer position) = some next) : next.Paced := by
  obtain ⟨hdht, hrounds⟩ := step_eq_some hstep
  obtain ⟨hexpire, hnow⟩ := MaintainedDht.timer_expireTimer hdht
  have hcount := DeadlineTimer.continuations_expire hexpire
  have hkept : next.rounds = loop.rounds := hrounds.trans (List.append_nil _)
  refine ⟨?_, ?_, ?_⟩
  · rw [OneLoop, hcount, hkept]
    exact hpaced.oneLoop
  · rw [hkept, hnow]
    exact fun round hround => (hpaced.onTime round hround).expire hexpire
  · rw [hcount, hkept, hnow]
    exact hpaced.ended

theorem paced_other {loop next : MaintenanceLoop} {event : MaintainedDht.Event}
    (hpaced : loop.Paced) (hstep : step platform loop event = some next)
    (hstart : ∀ ids, event ≠ .start ids)
    (hexpire : ∀ position, event ≠ .expireTimer position)
    (hrun : ∀ position ids, event ≠ .runTask position ids) : next.Paced := by
  obtain ⟨hdht, hrounds⟩ := step_eq_some hstep
  obtain ⟨htimer, hnow⟩ := MaintainedDht.timer_other hdht hstart hexpire hrun
  have hnone : loop.dht.roundOf event = [] := by
    cases event with
    | start ids => exact absurd rfl (hstart ids)
    | runTask position ids => exact absurd rfl (hrun position ids)
    | _ => rfl
  have hkept : next.rounds = loop.rounds := by rw [hrounds, hnone, List.append_nil]
  refine ⟨?_, ?_, ?_⟩
  · rw [OneLoop, htimer, hkept]
    exact hpaced.oneLoop
  · rw [htimer, hkept]
    exact fun round hround => (hpaced.onTime round hround).mono hnow
  · rw [htimer, hkept]
    exact fun hidle round hround => (hpaced.ended hidle round hround).trans hnow

theorem paced_step {loop next : MaintenanceLoop} {event : MaintainedDht.Event}
    (hpaced : loop.Paced) (hidle : loop.StartsIdle platform event)
    (hstep : step platform loop event = some next) : next.Paced := by
  cases event with
  | start ids =>
      have hcalled : step platform loop (.start ids) ≠ none := by
        rw [hstep]
        exact Option.some_ne_none next
      exact paced_start_idle hpaced (hidle ids rfl hcalled) hstep
  | expireTimer position => exact paced_expireTimer hpaced hstep
  | runTask position ids => exact paced_runTask hpaced hstep
  | _ => exact paced_other hpaced hstep nofun nofun nofun

/-- There is one loop, with a full period between its rounds, in exactly the runs that
call `dht_manager::start` only when no wait and no queued handler is left. -/
theorem throughout_oneLoop_iff (platform : Platform) (ep : Endpoint) (now : ℕ)
    (events : List MaintainedDht.Event) :
    Runs.Throughout (step platform) OneLoop (start platform ep now) events ↔
      Runs.Meets (step platform) (StartsIdle platform) (start platform ep now) events := by
  constructor
  · apply Runs.meets_of_throughout fun _ => True
    · exact fun _ _ _ _ _ => trivial
    · exact fun loop event next _ _ hstep honeLoop => startsIdle_of_oneLoop hstep honeLoop
    · exact fun loop event hstuck ids _ hcalled => absurd hstuck hcalled
    · exact trivial
  · apply Runs.throughout_of_meets Paced
    · exact fun loop event next hpaced hidle hstep => paced_step hpaced hidle hstep
    · exact fun loop hpaced => hpaced.oneLoop
    · exact paced_start ep now

end MaintenanceLoop

end SsP2p.Kademlia

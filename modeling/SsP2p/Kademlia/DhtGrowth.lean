import SsP2p.Kademlia.DhtReads
import SsP2p.Kademlia.MaintenanceLoop

/-!
# What the Kademlia layer only adds to

No step takes back what was sent, forgets an id that was drawn, or loses a message that
has arrived.
-/

namespace SsP2p.Kademlia

namespace DhtLoop

structure Extends (loop next : DhtLoop) : Prop where
  sent : loop.io.sent <+: next.io.sent
  issued : loop.issued ⊆ next.issued

theorem Extends.refl (loop : DhtLoop) : Extends loop loop :=
  ⟨List.prefix_refl _, List.Subset.refl _⟩

theorem Extends.trans {loop middle next : DhtLoop} (hfirst : Extends loop middle)
    (hsecond : Extends middle next) : Extends loop next :=
  ⟨hfirst.sent.trans hsecond.sent, List.Subset.trans hfirst.issued hsecond.issued⟩

theorem extends_of_eq {loop next : DhtLoop} (hsent : next.io.sent = loop.io.sent)
    (hissued : next.issued = loop.issued) : Extends loop next :=
  ⟨by rw [hsent], by rw [hissued]; exact List.Subset.refl _⟩

variable {platform : Platform}

theorem extends_pingRequest {loop next : DhtLoop} {id : Uuid} {ep : Endpoint}
    {pongHandler timeoutHandler : Handler}
    (hrequest : loop.pingRequest platform id ep pongHandler timeoutHandler = some next) :
    Extends loop next := by
  obtain ⟨-, payload, rfl⟩ := pingRequest_eq_some platform hrequest
  exact ⟨List.prefix_append _ _, List.subset_cons_self _ _⟩

theorem extends_findNodeRequest {loop next : DhtLoop} {id : Uuid} {ep : Endpoint}
    {ignoreEps : List Endpoint} {responseHandler : Handler}
    (hrequest : loop.findNodeRequest platform id ep ignoreEps responseHandler = some next) :
    Extends loop next := by
  obtain ⟨-, payload, rfl⟩ := findNodeRequest_eq_some platform hrequest
  exact ⟨List.prefix_append _ _, List.subset_cons_self _ _⟩

theorem extends_invoke {loop next : DhtLoop} {handler : Handler} {ep : Endpoint} {id : Uuid}
    (hinvoke : loop.invoke platform handler ep id = some next) : Extends loop next := by
  cases invoke_eq_some platform hinvoke with
  | inl htable =>
      obtain ⟨table, rfl, -⟩ := htable
      exact extends_of_eq rfl rfl
  | inr hping => exact extends_pingRequest hping

theorem extends_runCallback {loop next : DhtLoop} {id : Uuid} {callback : Callback}
    (hrun : loop.runCallback platform id callback = some next) : Extends loop next := by
  have hlogged : ∀ invocation, Extends loop (loop.log invocation) := fun _ => extends_of_eq rfl rfl
  cases callback with
  | pingTimeout obsId =>
      obtain ⟨obs, -, rfl⟩ := Option.map_eq_some_iff.mp hrun
      rw [timeout]
      split_ifs
      · exact Extends.refl loop
      · exact extends_of_eq rfl rfl
  | pongHandler obsId =>
      obtain ⟨obs, -, hinvoke⟩ := Option.bind_eq_some_iff.mp hrun
      exact (hlogged _).trans (extends_invoke hinvoke)
  | timeoutHandler obsId =>
      obtain ⟨obs, -, hinvoke⟩ := Option.bind_eq_some_iff.mp hrun
      exact (hlogged _).trans (extends_invoke hinvoke)
  | responseHandler obsId ep =>
      obtain ⟨obs, -, hinvoke⟩ := Option.bind_eq_some_iff.mp hrun
      exact (hlogged _).trans (extends_invoke hinvoke)
  | refreshTick =>
      obtain rfl := Option.some.inj hrun
      exact extends_of_eq rfl rfl
  | _ => cases hrun

theorem extends_step {loop next : DhtLoop} {event : Event}
    (hstep : loop.step platform event = some next) : Extends loop next := by
  cases event with
  | pingRequest id ep pongHandler timeoutHandler => exact extends_pingRequest hstep
  | findNodeRequest id ep ignoreEps responseHandler => exact extends_findNodeRequest hstep
  | receive msg ep =>
      obtain ⟨manager, io, hincome, rfl⟩ := receive_eq_some platform hstep
      exact ⟨DhtManager.sent_prefix_of_incomeMessage hincome, List.Subset.refl _⟩
  | updateGlobalSelfEndpoint ep =>
      obtain rfl := Option.some.inj hstep
      exact extends_of_eq rfl rfl
  | advance seconds =>
      obtain rfl := Option.some.inj hstep
      exact extends_of_eq rfl rfl
  | expire position =>
      obtain ⟨io, hexpire, rfl⟩ := Option.map_eq_some_iff.mp hstep
      obtain ⟨wait, -, rfl⟩ := IoContext.expire_eq_some hexpire
      exact extends_of_eq rfl rfl
  | run position id =>
      obtain ⟨taken, htake, hrun⟩ := Option.bind_eq_some_iff.mp hstep
      have htaken : Extends loop { loop with io := taken.2 } := by
        refine extends_of_eq ?_ rfl
        rw [(IoContext.take_eq_some htake).2]
      exact htaken.trans (extends_runCallback hrun)

end DhtLoop

namespace MaintainedDht

variable {platform : Platform}

/-! ## The steps of the event loop in a step -/

/-- What a step may make the event loop do: nothing but a call of
`update_global_self_endpoint` brings another one about. -/
def Event.Contains (event : Event) (loopEvent : DhtLoop.Event) : Prop :=
  ∀ ep, loopEvent = .updateGlobalSelfEndpoint ep → event = .updateGlobalSelfEndpoint ep

theorem loop_tickDone (dht : MaintainedDht) : dht.tickDone.loop = dht.loop := by
  simp only [tickDone]
  split_ifs
  · rfl
  · rfl
  · rfl

section Steps

variable {P : DhtLoop → Prop}
  (hrequest : ∀ loop loopEvent next, P loop →
    (∀ ep, loopEvent ≠ DhtLoop.Event.updateGlobalSelfEndpoint ep) →
      loop.step platform loopEvent = some next → P next)

include hrequest

theorem loop_of_tick {dht next : MaintainedDht} {ids : List Uuid}
    (htick : dht.tick platform ids = some next) (hloop : P dht.loop) : P next.loop := by
  rw [tick] at htick
  split_ifs at htick
  · obtain ⟨⟨last, rest⟩, hround, rfl⟩ := Option.map_eq_some_iff.mp htick
    rw [DhtLoop.sendRefreshPing_eq] at hround
    refine Supply.invariant_of_forEach P (fun id entry _ loop after hkept hping => ?_) hloop hround
    refine hrequest loop (.pingRequest id entry.2.ep (.moveBack entry.1 entry.2)
      (.deleteNode entry.1 entry.2)) after hkept (fun ep heq => ?_) hping
    cases heq
  · obtain rfl := Option.some.inj htick
    exact hloop

theorem loop_of_getRemoteNodes {dht next : MaintainedDht} {ids : List Uuid}
    (hremote : dht.getRemoteNodes platform ids = some next) (hloop : P dht.loop) :
    P next.loop := by
  rw [getRemoteNodes] at hremote
  split_ifs at hremote
  · obtain ⟨⟨last, rest⟩, hround, rfl⟩ := Option.map_eq_some_iff.mp hremote
    rw [loop_tickDone]
    refine Supply.invariant_of_forEach P (fun id ep _ loop after hkept hfind => ?_) hloop hround
    refine hrequest loop (.findNodeRequest id ep _ .pingFound) after hkept (fun ep heq => ?_) hfind
    cases heq
  · obtain rfl := Option.some.inj hremote
    rw [loop_tickDone]
    exact hloop

end Steps

/-- What the event loop and the changes of the table keep, a step keeps. -/
theorem loop_of_step {P : DhtLoop → Prop} {dht next : MaintainedDht} {event : Event}
    (hkeeps : ∀ loop loopEvent after, P loop → event.Contains loopEvent →
      loop.step platform loopEvent = some after → P after)
    (htable : ∀ loop eps, P loop →
      P (loop.withTable (loop.table.autoUpdateBatch platform eps)))
    (hloop : P dht.loop) (hstep : dht.step platform event = some next) : P next.loop := by
  have hrequest : ∀ loop loopEvent after, P loop →
      (∀ ep, loopEvent ≠ DhtLoop.Event.updateGlobalSelfEndpoint ep) →
        loop.step platform loopEvent = some after → P after :=
    fun loop loopEvent after hkept hother =>
      hkeeps loop loopEvent after hkept fun ep heq => absurd heq (hother ep)
  have hone : ∀ {middle after : MaintainedDht} {loopEvent : DhtLoop.Event},
      middle.loopStep platform loopEvent = some after → event.Contains loopEvent →
        P middle.loop → P after.loop := by
    intro middle after loopEvent hafter hcontains hkept
    obtain ⟨loop, hstep, rfl⟩ := loopStep_eq_some platform hafter
    exact hkeeps middle.loop loopEvent loop hkept hcontains hstep
  cases event with
  | receive msg ep =>
      obtain rfl := Option.some.inj hstep
      cases hreceive : ({ dht with
          arrivals := dht.arrivals ++ [⟨msg, ep, dht.loop.io.sent⟩] } :
            MaintainedDht).loopStep platform (.receive msg ep) with
      | none => exact hloop
      | some next => exact hone hreceive (fun _ heq => nomatch heq) hloop
  | autoUpdate ep =>
      obtain rfl := Option.some.inj hstep
      exact htable dht.loop [ep] hloop
  | autoUpdateBatch eps =>
      obtain rfl := Option.some.inj hstep
      exact htable dht.loop eps hloop
  | updateGlobalSelfEndpoint ep =>
      refine hone hstep (fun other heq => ?_) hloop
      rw [DhtLoop.Event.updateGlobalSelfEndpoint.inj heq]
  | start ids =>
      have htick : ({ dht with requiresTick := true } : MaintainedDht).tick platform ids =
        some next := hstep
      exact loop_of_tick hrequest htick hloop
  | stop =>
      obtain rfl := Option.some.inj hstep
      exact hloop
  | advance seconds => exact hone hstep (fun _ heq => nomatch heq) hloop
  | expire position => exact hone hstep (fun _ heq => nomatch heq) hloop
  | run position id => exact hone hstep (fun _ heq => nomatch heq) hloop
  | expireTimer position =>
      obtain ⟨wait, -, hwait⟩ := Option.bind_eq_some_iff.mp hstep
      split_ifs at hwait
      obtain rfl := Option.some.inj hwait
      exact hloop
  | runTask position ids =>
      obtain ⟨task, -, htask⟩ := Option.bind_eq_some_iff.mp hstep
      cases task with
      | tick =>
          have htick : ({ dht with ready := dht.ready.eraseIdx position } :
            MaintainedDht).tick platform ids = some next := htask
          exact loop_of_tick hrequest htick hloop
      | getRemoteNodes =>
          have hremote : ({ dht with ready := dht.ready.eraseIdx position } :
            MaintainedDht).getRemoteNodes platform ids = some next := htask
          exact loop_of_getRemoteNodes hrequest hremote hloop

/-! ## What a step adds to -/

def arrivalsOf (dht : MaintainedDht) : Event → List Arrival
  | .receive msg ep => [⟨msg, ep, dht.loop.io.sent⟩]
  | _ => []

structure Extends (dht next : MaintainedDht) (added : List Arrival) : Prop where
  loop : DhtLoop.Extends dht.loop next.loop
  arrivals : next.arrivals = dht.arrivals ++ added

theorem Extends.trans {dht middle next : MaintainedDht} {added : List Arrival}
    (hfirst : Extends dht middle added) (hsecond : Extends middle next []) :
    Extends dht next added :=
  ⟨hfirst.loop.trans hsecond.loop, by rw [hsecond.arrivals, hfirst.arrivals, List.append_nil]⟩

theorem extends_of_loop {dht next : MaintainedDht} (hloop : DhtLoop.Extends dht.loop next.loop)
    (harrivals : next.arrivals = dht.arrivals) : Extends dht next [] :=
  ⟨hloop, by rw [harrivals, List.append_nil]⟩

theorem arrivals_tick {dht next : MaintainedDht} {ids : List Uuid}
    (htick : dht.tick platform ids = some next) : next.arrivals = dht.arrivals := by
  rw [tick] at htick
  split_ifs at htick
  · obtain ⟨rest, -, rfl⟩ := Option.map_eq_some_iff.mp htick
    rfl
  · obtain rfl := Option.some.inj htick
    rfl

theorem arrivals_tickDone (dht : MaintainedDht) : dht.tickDone.arrivals = dht.arrivals := by
  simp only [tickDone]
  split_ifs
  · rfl
  · rfl
  · rfl

theorem arrivals_step {dht next : MaintainedDht} {event : Event}
    (hstep : dht.step platform event = some next) :
    next.arrivals = dht.arrivals ++ dht.arrivalsOf event := by
  have hone : ∀ {middle after : MaintainedDht} {loopEvent : DhtLoop.Event},
      middle.loopStep platform loopEvent = some after → after.arrivals = middle.arrivals := by
    intro middle after loopEvent hafter
    obtain ⟨loop, -, rfl⟩ := loopStep_eq_some platform hafter
    rfl
  cases event with
  | receive msg ep =>
      obtain rfl := Option.some.inj hstep
      cases hreceive : ({ dht with
          arrivals := dht.arrivals ++ [⟨msg, ep, dht.loop.io.sent⟩] } :
            MaintainedDht).loopStep platform (.receive msg ep) with
      | none => rfl
      | some next => exact hone hreceive
  | updateGlobalSelfEndpoint ep => exact (hone hstep).trans (List.append_nil _).symm
  | advance seconds => exact (hone hstep).trans (List.append_nil _).symm
  | expire position => exact (hone hstep).trans (List.append_nil _).symm
  | run position id => exact (hone hstep).trans (List.append_nil _).symm
  | start ids =>
      have htick : ({ dht with requiresTick := true } : MaintainedDht).tick platform ids =
        some next := hstep
      exact (arrivals_tick htick).trans (List.append_nil _).symm
  | expireTimer position =>
      obtain ⟨wait, -, hwait⟩ := Option.bind_eq_some_iff.mp hstep
      split_ifs at hwait
      obtain rfl := Option.some.inj hwait
      exact (List.append_nil _).symm
  | runTask position ids =>
      obtain ⟨task, -, htask⟩ := Option.bind_eq_some_iff.mp hstep
      refine Eq.trans ?_ (List.append_nil _).symm
      cases task with
      | tick =>
          have htick : ({ dht with ready := dht.ready.eraseIdx position } :
            MaintainedDht).tick platform ids = some next := htask
          have hsame := arrivals_tick htick
          exact hsame
      | getRemoteNodes =>
          have hremote : ({ dht with ready := dht.ready.eraseIdx position } :
            MaintainedDht).getRemoteNodes platform ids = some next := htask
          rw [getRemoteNodes] at hremote
          split_ifs at hremote
          · obtain ⟨rest, -, rfl⟩ := Option.map_eq_some_iff.mp hremote
            exact arrivals_tickDone _
          · obtain rfl := Option.some.inj hremote
            exact arrivals_tickDone _
  | _ =>
      obtain rfl := Option.some.inj hstep
      exact (List.append_nil _).symm

theorem extends_step {dht next : MaintainedDht} {event : Event}
    (hstep : dht.step platform event = some next) : Extends dht next (dht.arrivalsOf event) where
  loop := loop_of_step
    (fun _ _ _ hextends _ hloop => hextends.trans (DhtLoop.extends_step hloop))
    (fun _ _ hextends => hextends.trans (DhtLoop.extends_of_eq rfl rfl))
    (DhtLoop.Extends.refl dht.loop) hstep
  arrivals := arrivals_step hstep

end MaintainedDht

end SsP2p.Kademlia

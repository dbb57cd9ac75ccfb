import SsP2p.Ice.SoundIceExchange

/-!
# Who is elected

Every consensus that an agent uses, by a reply or by the timer, names an endpoint that the
replies of other nodes have named.
-/

namespace SsP2p.Ice

open Kademlia

namespace IceLoop

/-- Every consensus that was used names one of these endpoints. -/
def Elects (Named : Endpoint → Prop) (loop : IceLoop) : Prop :=
  ∀ settlement ∈ loop.history.settled, ∀ ep, settlement.ep = some ep → Named ep

variable {platform : Platform} {Carried : Endpoint → String → Json → Prop}
  {Named : Endpoint → Prop}

theorem elects_start (selfEp : Endpoint) (table : KRoutingTable) (now : ℕ) :
    (start selfEp table now).Elects Named := nofun

theorem Elects.of_settled {loop next : IceLoop} (helects : loop.Elects Named)
    (hsettled : next.history.settled = loop.history.settled) : next.Elects Named := by
  rw [Elects, hsettled]
  exact helects

/-- One more consensus is used. -/
theorem Elects.append {loop next : IceLoop} {settlements : List Settlement}
    (helects : loop.Elects Named)
    (hsettled : next.history.settled = loop.history.settled ++ settlements)
    (hnamed : ∀ settlement ∈ settlements, ∀ ep, settlement.ep = some ep → Named ep) :
    next.Elects Named := by
  intro settlement hmem
  rw [hsettled] at hmem
  exact (List.mem_append.mp hmem).elim (helects settlement) (hnamed settlement)

/-- The consensus that a message completes. -/
theorem Proper.named_of_settlement {loop : IceLoop} (hproper : loop.Proper platform Carried Named)
    {msg : Message} {ep : Endpoint} (htells : Tells platform Named msg)
    {used : Settlement} (hsettles : loop.settlement platform msg ep = some used)
    {found : Endpoint} (hfound : used.ep = some found) : Named found := by
  simp only [settlement, Option.bind_eq_bind, Option.bind_eq_some_iff,
    Fallible.toOption_eq_some_iff] at hsettles
  obtain ⟨⟨iceMsg, obsId⟩, hstun, obs, hobs, globalEp, hglobalEp, hsettled⟩ := hsettles
  rw [BindingRequest.settlement] at hsettled
  split_ifs at hsettled
  obtain rfl := Option.some.inj hsettled
  exact named_of_consensus (repliesName_addResponse (hproper.replies obsId obs hobs)
    (htells iceMsg obsId globalEp hstun hglobalEp)) hfound

theorem Proper.elects_receive {loop next : IceLoop} {drawn : Uuid} {msg : Message}
    {ep : Endpoint} (hproper : loop.Proper platform Carried Named)
    (htells : Tells platform Named msg) (helects : loop.Elects Named)
    (hreceive : loop.receive platform drawn msg ep = some next) : next.Elects Named := by
  obtain ⟨result, -, rfl⟩ := receive_eq_some hreceive
  refine helects.append rfl fun settlement hmem found hfound => ?_
  exact hproper.named_of_settlement htells (Option.mem_toList.mp hmem) hfound

theorem Elects.ran {loop next : IceLoop} {callback : Callback}
    (helects : loop.Elects Named)
    (hreplies : ∀ id obs, loop.strage.bindings.find id = some obs → RepliesName Named obs)
    (hran : Ran platform loop callback next) : next.Elects Named := by
  cases hran with
  | bindingTimeout obs hfind =>
      refine helects.append rfl fun settlement hmem found hfound => ?_
      rw [List.mem_singleton.mp hmem] at hfound
      exact named_of_consensus (hreplies obs.id obs hfind) hfound
  | srHandler obsId ep =>
      cases ep with
      | none => exact helects
      | some ep => exact helects.of_settled rfl
  | traversalDone obs hfind => exact helects.of_settled rfl

theorem Proper.elects_step {loop next : IceLoop} {event : Event}
    (hproper : loop.Proper platform Carried Named)
    (hadmits : Admits platform Carried Named event) (helects : loop.Elects Named)
    (hstep : loop.step platform event = some next) : next.Elects Named := by
  cases event with
  | signalingSend id destEp rootParam payload =>
      obtain ⟨-, rfl⟩ := of_step_signalingSend hstep
      exact helects.of_settled rfl
  | bindingRequest id targetNodes reliability isAsync =>
      obtain ⟨-, rfl⟩ := of_step_bindingRequest hstep
      cases isAsync with
      | false => exact helects.of_settled rfl
      | true => exact helects.of_settled rfl
  | receive id msg ep =>
      exact hproper.elects_receive hadmits.2.2 helects (of_step_receive hstep).2
  | expire position =>
      obtain ⟨io, -, rfl⟩ := Option.map_eq_some_iff.mp hstep
      exact helects.of_settled rfl
  | run position =>
      obtain ⟨⟨callback, io⟩, -, hrun⟩ := Option.bind_eq_some_iff.mp hstep
      have htaken : (({ loop with io := io } : IceLoop).log callback).Elects Named :=
        helects.of_settled rfl
      exact htaken.ran hproper.replies (ran_of_runCallback hrun)
  | _ =>
      obtain rfl := Option.some.inj hstep
      exact helects.of_settled rfl

end IceLoop

end SsP2p.Ice

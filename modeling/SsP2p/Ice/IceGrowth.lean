import SsP2p.Ice.IceLoop

/-!
# What the ICE agent only adds to

No step takes back what was sent or forgets an id that was drawn, and only the Kademlia
layer changes the routing table.
-/

namespace SsP2p.Ice

open Kademlia

namespace IceLoop

structure Extends (loop next : IceLoop) : Prop where
  sent : loop.io.sent <+: next.io.sent
  issued : loop.issued ⊆ next.issued

theorem Extends.refl (loop : IceLoop) : Extends loop loop :=
  ⟨List.prefix_refl _, List.Subset.refl _⟩

theorem Extends.trans {loop middle next : IceLoop} (hfirst : Extends loop middle)
    (hsecond : Extends middle next) : Extends loop next :=
  ⟨hfirst.sent.trans hsecond.sent, List.Subset.trans hfirst.issued hsecond.issued⟩

theorem extends_of_eq {loop next : IceLoop} (hsent : next.io.sent = loop.io.sent)
    (hissued : loop.issued ⊆ next.issued) : Extends loop next :=
  ⟨by rw [hsent], hissued⟩

theorem sent_prefix_sendAll (io : IoContext) (iceMsg : IceMessage) (eps : List Endpoint) :
    io.sent <+: (SignalingServer.sendAll io iceMsg eps).sent := by
  rw [SignalingServer.sendAll_eq]
  exact List.prefix_append _ _

theorem sent_settle (obs : BindingRequest) (cctx : ConsensusCtx) (io : IoContext) :
    (obs.settle cctx io).sent = io.sent := by
  rw [BindingRequest.settle]
  split_ifs
  · rfl
  · rfl
  · rfl

theorem sent_onTimeout (platform : Platform) (obs : BindingRequest) (io : IoContext) :
    (obs.onTimeout platform io).sent = io.sent := by
  rw [BindingRequest.onTimeout]
  split_ifs
  · rfl
  · rfl

variable {platform : Platform}

theorem extends_signalingSend (loop : IceLoop) (drawn : Uuid) (destEp : Endpoint)
    (rootParam : String) (payload : Json) :
    Extends loop (loop.signalingSend platform drawn destEp rootParam payload) := by
  refine ⟨?_, List.subset_cons_self _ _⟩
  have hsent : loop.io.sent <+: (SignalingServer.signalingSend platform loop.agent.selfEp
      loop.table loop.strage loop.io drawn destEp rootParam payload).2.sent := by
    rw [SignalingServer.signalingSend]
    split_ifs
    · exact List.prefix_append _ _
    · exact (List.prefix_append loop.io.sent _).trans
        (sent_prefix_sendAll (loop.io.asyncSend destEp "dummy" (.string "signaling dummy")) _ _)
  exact hsent

theorem extends_bindingRequest (loop : IceLoop) (drawn : Uuid) (targetNodes : List Endpoint)
    (reliability : ℕ) (isAsync : Bool) :
    Extends loop (loop.bindingRequest platform drawn targetNodes reliability isAsync) := by
  have hsent : loop.io.sent <+: (StunServer.bindingRequest platform loop.strage loop.io
      loop.table drawn targetNodes reliability).2.sent := by
    simp only [StunServer.bindingRequest]
    split_ifs
    · exact List.prefix_refl _
    · exact sent_prefix_sendAll ((BindingRequest.make drawn loop.io.now).init loop.io) _ _
  cases isAsync with
  | false => exact ⟨hsent, List.subset_cons_self _ _⟩
  | true => exact ⟨hsent, List.subset_cons_self _ _⟩

theorem extends_receive {loop next : IceLoop} {drawn : Uuid} {msg : Message} {ep : Endpoint}
    (hreceive : loop.receive platform drawn msg ep = some next) : Extends loop next := by
  obtain ⟨result, hincome, rfl⟩ := receive_eq_some hreceive
  refine ⟨?_, List.subset_cons_self _ _⟩
  change loop.io.sent <+: result.2.sent
  cases hincome with
  | other hsignaling hstun => exact List.prefix_refl _
  | relay iceMsg obsId obs hsignaling hreceiver => exact List.prefix_refl _
  | response iceMsg obsId obs hsignaling hreceiver => exact List.prefix_refl _
  | request iceMsg obsId obs nextIo hsignaling hreceiver hrequest =>
      rw [SignalingRequest.eq_of_incomeMessage hrequest]
      split_ifs
      · exact List.prefix_append _ _
      · exact List.prefix_refl _
  | server iceMsg obsId result hsignaling hreceiver hserver =>
      cases SignalingServer.handling_of_incomeMessage hserver with
      | answered srcEp hanswers hsrc => exact sent_prefix_sendAll _ _ _
      | handedOn copy added eps hhandsOn hcopy heps => exact sent_prefix_sendAll _ _ _
      | kept hanswers hhandsOn next hnext => exact List.prefix_refl _
  | reply iceMsg obsId obs globalEp hstun hfind hglobalEp =>
      have hkept : (obs.answer platform ep globalEp loop.io).sent = loop.io.sent :=
        sent_settle _ _ _
      rw [hkept]
  | stun iceMsg obsId nextIo hstun hfind hserver =>
      rw [StunServer.incomeMessage, Fallible.bind_eq_ok] at hserver
      obtain ⟨subProtocol, -, hserver⟩ := hserver
      split_ifs at hserver
      · rw [← Fallible.pure_eq_ok.mp hserver]
        exact sent_prefix_sendAll _ _ _
      · rw [← Fallible.pure_eq_ok.mp hserver]

theorem extends_ran {loop next : IceLoop} {callback : Callback}
    (hran : Ran platform loop callback next) : Extends loop next := by
  cases hran with
  | bindingTimeout obs hfind =>
      exact extends_of_eq (sent_onTimeout platform obs loop.io) (List.Subset.refl _)
  | srHandler obsId ep =>
      cases ep with
      | none => exact Extends.refl loop
      | some ep => exact extends_of_eq rfl (List.Subset.refl _)
  | traversalDone obs hfind => exact extends_of_eq rfl (List.Subset.refl _)

theorem extends_step {loop next : IceLoop} {event : Event}
    (hstep : loop.step platform event = some next) : Extends loop next := by
  cases event with
  | signalingSend id destEp rootParam payload =>
      obtain ⟨-, rfl⟩ := of_step_signalingSend hstep
      exact extends_signalingSend loop id destEp rootParam payload
  | bindingRequest id targetNodes reliability isAsync =>
      obtain ⟨-, rfl⟩ := of_step_bindingRequest hstep
      exact extends_bindingRequest loop id targetNodes reliability isAsync
  | receive id msg ep =>
      obtain ⟨-, hreceive⟩ := of_step_receive hstep
      exact extends_receive hreceive
  | updateGlobalSelfEndpoint ep =>
      obtain rfl := Option.some.inj hstep
      exact extends_of_eq rfl (List.Subset.refl _)
  | setTable table =>
      obtain rfl := Option.some.inj hstep
      exact extends_of_eq rfl (List.Subset.refl _)
  | refreshTick =>
      obtain rfl := Option.some.inj hstep
      exact extends_of_eq rfl (List.Subset.refl _)
  | advance seconds =>
      obtain rfl := Option.some.inj hstep
      exact extends_of_eq rfl (List.Subset.refl _)
  | expire position =>
      obtain ⟨io, hexpire, rfl⟩ := Option.map_eq_some_iff.mp hstep
      obtain ⟨wait, -, rfl⟩ := IoContext.expire_eq_some hexpire
      exact extends_of_eq rfl (List.Subset.refl _)
  | run position =>
      obtain ⟨⟨callback, io⟩, htake, hrun⟩ := Option.bind_eq_some_iff.mp hstep
      have htaken : Extends loop (({ loop with io := io } : IceLoop).log callback) := by
        refine extends_of_eq ?_ (List.Subset.refl _)
        have hsent : io.sent = loop.io.sent := by rw [(IoContext.take_eq_some htake).2]
        exact hsent
      exact htaken.trans (extends_ran (ran_of_runCallback hrun))

/-! ## The routing table -/

def tableAfter (loop : IceLoop) : Event → KRoutingTable
  | .setTable table => table
  | _ => loop.table

theorem table_bindingRequest (loop : IceLoop) (drawn : Uuid) (targetNodes : List Endpoint)
    (reliability : ℕ) (isAsync : Bool) :
    (loop.bindingRequest platform drawn targetNodes reliability isAsync).table =
      loop.table := by
  cases isAsync with
  | false => rfl
  | true => rfl

theorem table_step {loop next : IceLoop} {event : Event}
    (hstep : loop.step platform event = some next) : next.table = loop.tableAfter event := by
  cases event with
  | signalingSend id destEp rootParam payload =>
      obtain ⟨-, rfl⟩ := of_step_signalingSend hstep
      rfl
  | bindingRequest id targetNodes reliability isAsync =>
      obtain ⟨-, rfl⟩ := of_step_bindingRequest hstep
      exact table_bindingRequest loop id targetNodes reliability isAsync
  | receive id msg ep =>
      obtain ⟨-, hreceive⟩ := of_step_receive hstep
      obtain ⟨result, -, rfl⟩ := receive_eq_some hreceive
      rfl
  | expire position =>
      obtain ⟨io, -, rfl⟩ := Option.map_eq_some_iff.mp hstep
      rfl
  | run position =>
      obtain ⟨⟨callback, io⟩, -, hrun⟩ := Option.bind_eq_some_iff.mp hstep
      cases ran_of_runCallback hrun with
      | bindingTimeout obs hfind => rfl
      | srHandler obsId ep => cases ep <;> rfl
      | traversalDone obs hfind => rfl
  | _ =>
      obtain rfl := Option.some.inj hstep
      rfl

end IceLoop

end SsP2p.Ice

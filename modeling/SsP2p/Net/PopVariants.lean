import SsP2p.Core.HostPlatform
import SsP2p.Net.MessagePool

/-!
# The three ways to pop

`pop` takes a message by its position, `pop_by_id` by its id and `pop_since` by the time
of receipt.  The first one does what it should in every buffer.  `pop_by_id` erases at the
end of the queue when there is no such message, and `pop_since` never removes what it
returns.
-/

namespace SsP2p.Net

namespace PeerMessageBuffer

/-- What pushes make of a new buffer, when the clock does not go back and no id is drawn
twice; in between, the bind time may be set. -/
inductive Pushed : PeerMessageBuffer → Prop
  | make (ep : Endpoint) (usage : UInt64) : Pushed (.make ep usage)
  | push {buffer : PeerMessageBuffer} (hpushed : Pushed buffer) {now : ℕ} {id : Uuid}
      (hclock : ∀ received ∈ buffer.msgQueue, received.time ≤ now)
      (hfresh : ∀ received ∈ buffer.msgQueue, received.id ≠ id) (msg : Message) :
      Pushed (buffer.push now id msg)
  | bind {buffer : PeerMessageBuffer} (hpushed : Pushed buffer) (now : ℕ) :
      Pushed (buffer.updateLastBindedAt now)

/-- The queue is sorted by the time of receipt, and an id is there only once. -/
structure Ordered (queue : List ReceivedMessage) : Prop where
  sorted : queue.Pairwise fun left right => left.time ≤ right.time
  distinct : queue.Pairwise fun left right => left.id ≠ right.id

theorem ordered_of_pushed {buffer : PeerMessageBuffer} (hpushed : Pushed buffer) :
    Ordered buffer.msgQueue := by
  induction hpushed with
  | make ep usage => exact ⟨List.Pairwise.nil, List.Pairwise.nil⟩
  | push hpushed hclock hfresh msg ih =>
      refine ⟨List.pairwise_append.mpr ⟨ih.sorted, List.pairwise_singleton _ _, ?_⟩,
        List.pairwise_append.mpr ⟨ih.distinct, List.pairwise_singleton _ _, ?_⟩⟩
      · intro received hreceived last hlast
        rw [List.mem_singleton.mp hlast]
        exact hclock received hreceived
      · intro received hreceived last hlast
        rw [List.mem_singleton.mp hlast]
        exact hfresh received hreceived
  | bind hpushed now ih => exact ih

/-! ## What the lookups find -/

/-- Where ids are distinct, the message that a lookup by id finds is the only one. -/
theorem find?_id_of_getElem? {queue : List ReceivedMessage} (hordered : Ordered queue)
    {idx : ℕ} {received : ReceivedMessage} (hreceived : queue[idx]? = some received) :
    queue.find? (fun other => decide (other.id = received.id)) = some received := by
  obtain ⟨hlt, rfl⟩ := List.getElem?_eq_some_iff.mp hreceived
  rw [List.find?_eq_some_iff_getElem]
  refine ⟨decide_eq_true rfl, idx, hlt, rfl, ?_⟩
  intro earlier hearlier
  have hne := List.pairwise_iff_getElem.mp hordered.distinct earlier idx (by omega) hlt hearlier
  rw [decide_eq_false hne]
  rfl

/-- In a sorted queue the bisection of `pop_since` finds the oldest message from behind the
given time. -/
theorem popSince_fst {buffer : PeerMessageBuffer} (hordered : Ordered buffer.msgQueue)
    (since : ℤ) (flag : PopFlag) :
    (buffer.popSince since flag).1 =
      buffer.msgQueue.find? fun received => decide (buffer.sinceTime since < received.time) :=
  UpperBound.getElem?_upperBound (pairwise_compareReceivedAt hordered.sorted _)

end PeerMessageBuffer

open PeerMessageBuffer

/-! ## Calls -/

inductive PopCall where
  | pop (idx : ℕ) (flag : PopFlag)
  | popById (id : Uuid) (flag : PopFlag)
  | popSince (since : ℤ) (flag : PopFlag)

namespace PopCall

def flag : PopCall → PopFlag
  | pop _ flag => flag
  | popById _ flag => flag
  | popSince _ flag => flag

/-- The message that a call asks for: the one at a position from the oldest on, the one
with an id, or the oldest one that was received after a time. -/
def specified (buffer : PeerMessageBuffer) : PopCall → Option ReceivedMessage
  | pop idx _ => buffer.msgQueue[idx]?
  | popById id _ => buffer.msgQueue.find? fun received => decide (received.id = id)
  | popSince since _ => buffer.msgQueue.find? fun received =>
      decide (buffer.sinceTime since < received.time)

def run (buffer : PeerMessageBuffer) :
    PopCall → Except Fault (Option ReceivedMessage × PeerMessageBuffer)
  | pop idx flag => .ok (buffer.pop idx flag)
  | popById id flag => buffer.popById id flag
  | popSince since flag => .ok (buffer.popSince since flag)

/-- What was asked for is returned, and nothing else is changed: a message that is returned
without `peek` is taken out, in any other case the queue and the usage counter stay. -/
structure TakesOut (buffer : PeerMessageBuffer) (call : PopCall)
    (returned : Option ReceivedMessage) (after : PeerMessageBuffer) : Prop where
  asked : returned = call.specified buffer
  removed : ∀ received, call.flag = .none → returned = some received → ∃ front back,
    buffer.msgQueue = front ++ received :: back ∧ after.msgQueue = front ++ back
  unchanged : call.flag = .peek ∨ returned = none →
    after.msgQueue = buffer.msgQueue ∧
      after.dynamicMemUsageBytes = buffer.dynamicMemUsageBytes

/-- The call returns, with what it should. -/
def Lawful (buffer : PeerMessageBuffer) (call : PopCall) : Prop :=
  ∃ returned after, call.run buffer = .ok (returned, after) ∧
    call.TakesOut buffer returned after

/-- `pop_by_id` may only take out what is there, and `pop_since` nothing at all. -/
def Meets (buffer : PeerMessageBuffer) : PopCall → Prop
  | pop _ _ => True
  | popById id flag => flag = .peek ∨ buffer.msgQueue = [] ∨
      ∃ received ∈ buffer.msgQueue, received.id = id
  | popSince since flag => flag = .peek ∨
      ∀ received ∈ buffer.msgQueue, ¬ buffer.sinceTime since < received.time

/-- `pop` at the position of what was asked for. -/
theorem takesOut_pop {buffer : PeerMessageBuffer} {call : PopCall} {idx : ℕ}
    (hspecified : call.specified buffer = buffer.msgQueue[idx]?) :
    call.TakesOut buffer (buffer.pop idx call.flag).1 (buffer.pop idx call.flag).2 := by
  cases hqueue : buffer.msgQueue[idx]? with
  | none =>
      simp only [PeerMessageBuffer.pop, hqueue]
      refine ⟨hspecified.symm ▸ hqueue.symm, ?_, fun _ => ⟨rfl, rfl⟩⟩
      intro received _ hreturned
      cases hreturned
  | some received =>
      cases hflag : call.flag with
      | peek =>
          simp only [PeerMessageBuffer.pop, hqueue]
          refine ⟨hspecified.symm ▸ hqueue.symm, ?_, fun _ => ⟨rfl, rfl⟩⟩
          intro other hnone
          rw [hflag] at hnone
          cases hnone
      | none =>
          simp only [PeerMessageBuffer.pop, hqueue]
          refine ⟨hspecified.symm ▸ hqueue.symm, ?_, ?_⟩
          · intro other _ hreturned
            obtain ⟨hlt, hmessage⟩ := List.getElem?_eq_some_iff.mp hqueue
            refine ⟨buffer.msgQueue.take idx, buffer.msgQueue.drop (idx + 1), ?_,
              List.eraseIdx_eq_take_drop_succ _ _⟩
            rw [← Option.some.inj hreturned, ← hmessage, ← List.drop_eq_getElem_cons hlt,
              List.take_append_drop]
          · rintro (hpeek | hreturned)
            · rw [hflag] at hpeek
              cases hpeek
            · cases hreturned

/-- A call that changes nothing takes out what it should if it had nothing to take out. -/
theorem takesOut_self_iff {buffer : PeerMessageBuffer} {call : PopCall} :
    call.TakesOut buffer (call.specified buffer) buffer ↔
      call.flag = .peek ∨ call.specified buffer = none := by
  constructor
  · intro htakes
    cases hflag : call.flag with
    | peek => exact Or.inl rfl
    | none =>
        refine Or.inr ?_
        cases hspecified : call.specified buffer with
        | none => rfl
        | some received =>
            obtain ⟨front, back, hbefore, hafter⟩ := htakes.removed received hflag hspecified
            have hshorter := congrArg List.length (hbefore.symm.trans hafter)
            simp at hshorter
  · intro hunchanged
    refine ⟨rfl, ?_, fun _ => ⟨rfl, rfl⟩⟩
    intro received hnone hspecified
    rcases hunchanged with hpeek | habsent
    · rw [hpeek] at hnone
      cases hnone
    · rw [habsent] at hspecified
      cases hspecified

/-- The calls of `pop_by_id` that do what they should. -/
theorem lawful_popById_iff {buffer : PeerMessageBuffer} (hordered : Ordered buffer.msgQueue)
    (id : Uuid) (flag : PopFlag) :
    (popById id flag).Lawful buffer ↔ (popById id flag).Meets buffer := by
  have hself (hunchanged : flag = .peek ∨ (popById id flag).specified buffer = none) :
      (popById id flag).TakesOut buffer ((popById id flag).specified buffer) buffer :=
    takesOut_self_iff.mpr hunchanged
  by_cases hempty : buffer.msgQueue = []
  · have hspecified : (popById id flag).specified buffer = none := by
      rw [specified, hempty, List.find?_nil]
    have htakes := hself (Or.inr hspecified)
    rw [hspecified] at htakes
    exact iff_of_true ⟨none, buffer, popById_of_nil hempty id flag, htakes⟩
      (Or.inr (Or.inl hempty))
  · cases hidx : lastIdxOf buffer.msgQueue id with
    | some idx =>
        obtain ⟨received, hreceived, rfl⟩ := getElem?_of_lastIdxOf hidx
        have hspecified : (popById received.id flag).specified buffer =
            buffer.msgQueue[idx]? := by
          rw [hreceived]
          exact find?_id_of_getElem? hordered hreceived
        exact iff_of_true ⟨_, _, popById_of_found hidx flag, takesOut_pop hspecified⟩
          (Or.inr (Or.inr ⟨received, List.mem_of_getElem? hreceived, rfl⟩))
    | none =>
        have habsent := lastIdxOf_eq_none_iff.mp hidx
        have hrun := popById_of_absent hempty habsent flag
        by_cases hpeek : flag = .peek
        · have hspecified : (popById id flag).specified buffer = none := by
            rw [specified, List.find?_eq_none]
            intro received hreceived
            rw [decide_eq_true_eq]
            exact habsent received hreceived
          have htakes := hself (Or.inl hpeek)
          rw [hspecified] at htakes
          rw [if_pos hpeek] at hrun
          exact iff_of_true ⟨none, buffer, hrun, htakes⟩ (Or.inl hpeek)
        · rw [if_neg hpeek] at hrun
          apply iff_of_false
          · rintro ⟨returned, after, hreturns, -⟩
            cases hrun.symm.trans hreturns
          · rintro (hother | hnil | ⟨received, hreceived, hid⟩)
            · exact hpeek hother
            · exact hempty hnil
            · exact habsent received hreceived hid

/-- The calls of `pop_since` that do what they should. -/
theorem lawful_popSince_iff {buffer : PeerMessageBuffer} (hordered : Ordered buffer.msgQueue)
    (since : ℤ) (flag : PopFlag) :
    (popSince since flag).Lawful buffer ↔ (popSince since flag).Meets buffer := by
  have hreturned : (buffer.popSince since flag).1 = (popSince since flag).specified buffer :=
    popSince_fst hordered since flag
  have hlawful : (popSince since flag).Lawful buffer ↔
      (popSince since flag).TakesOut buffer ((popSince since flag).specified buffer) buffer := by
    rw [← hreturned]
    constructor
    · rintro ⟨returned, after, hrun, htakes⟩
      obtain ⟨rfl, rfl⟩ := Prod.mk.inj (Except.ok.inj hrun)
      exact htakes
    · exact fun htakes => ⟨_, _, rfl, htakes⟩
  rw [hlawful, takesOut_self_iff, specified, List.find?_eq_none]
  simp only [decide_eq_true_eq]
  rfl

/-- Exactly the calls that meet the condition do what they should. -/
theorem lawful_iff {buffer : PeerMessageBuffer} (hpushed : Pushed buffer) (call : PopCall) :
    call.Lawful buffer ↔ call.Meets buffer := by
  have hordered := ordered_of_pushed hpushed
  cases call with
  | pop idx flag => exact iff_of_true ⟨_, _, rfl, takesOut_pop rfl⟩ trivial
  | popById id flag => exact lawful_popById_iff hordered id flag
  | popSince since flag => exact lawful_popSince_iff hordered since flag

/-- A buffer that got the messages `1` and `2`, ten seconds apart. -/
def twoMessages : PeerMessageBuffer :=
  ((PeerMessageBuffer.make (nodeAt 2) 0).push 10 1 (.ofPart "chat" (.string "first"))).push 20 2
    (.ofPart "chat" (.string "second"))

theorem pushed_twoMessages : Pushed twoMessages := by
  refine .push (.push (.make (nodeAt 2) 0) ?_ ?_ _) ?_ ?_ _
  · intro received hreceived
    cases hreceived
  · intro received hreceived
    cases hreceived
  · intro received hreceived
    rw [List.mem_singleton.mp hreceived]
    decide
  · intro received hreceived
    rw [List.mem_singleton.mp hreceived]
    decide

theorem lawful_popById_first : (popById 1 .none).Lawful twoMessages :=
  (lawful_iff pushed_twoMessages (popById 1 .none)).mpr
    (Or.inr (Or.inr ⟨_, List.mem_cons_self, rfl⟩))

/-- An id that is not there makes `pop_by_id` erase the end of the queue, and `pop_since`
leaves the second message where it is. -/
theorem not_lawful_twoMessages :
    (popById 3 .none).run twoMessages = .error .eraseEnd ∧
      ¬ (popById 3 .none).Lawful twoMessages ∧ ¬ (popSince 10 .none).Lawful twoMessages := by
  have hordered := ordered_of_pushed pushed_twoMessages
  refine ⟨rfl, ?_, ?_⟩
  · rw [lawful_popById_iff hordered]
    rintro (hpeek | hnil | ⟨received, hreceived, hid⟩)
    · cases hpeek
    · cases hnil
    · have hids : ∀ other ∈ twoMessages.msgQueue, other.id ≠ 3 := by
        decide
      exact hids received hreceived hid
  · rw [lawful_popSince_iff hordered]
    rintro (hpeek | hnone)
    · cases hpeek
    · exact hnone ⟨2, .ofPart "chat" (.string "second"), 20⟩
        (List.mem_cons_of_mem _ List.mem_cons_self) (by decide)

end PopCall

end SsP2p.Net

import SsP2p.Lib.Runs
import SsP2p.Net.PopVariants

/-!
# The usage counter of a buffer

`push` counts a message up and the pops count it down, but the constructor leaves the
counter as it is, and `drop` and `clear` take messages out without counting.
-/

namespace SsP2p.Net

/-- What can be done with a buffer; a range is given by the positions of its ends, and
after a copy the copy is the one that is looked at. -/
inductive BufferCall where
  | push (now : ℕ) (id : Uuid) (msg : Message)
  | pop (call : PopCall)
  | drop (first last : ℕ)
  | clear
  | copy

/-- The counter is the number of queued messages. -/
def PeerMessageBuffer.Accounted (buffer : PeerMessageBuffer) : Prop :=
  buffer.dynamicMemUsageBytes.toNat = buffer.msgQueue.length

namespace BufferCall

open PeerMessageBuffer

/-- A queue has fewer than `2 ^ 64` messages, and what is dropped is a range of it. -/
def Permitted (buffer : PeerMessageBuffer) : BufferCall → Prop
  | push _ _ _ => buffer.msgQueue.length + 1 < 2 ^ 64
  | drop first last => first ≤ last ∧ last ≤ buffer.msgQueue.length
  | _ => True

instance (buffer : PeerMessageBuffer) : DecidablePred (Permitted buffer)
  | push _ _ _ => inferInstanceAs (Decidable (_ < _))
  | drop _ _ => inferInstanceAs (Decidable (_ ∧ _))
  | pop _ => .isTrue trivial
  | clear => .isTrue trivial
  | copy => .isTrue trivial

def apply (buffer : PeerMessageBuffer) : BufferCall → Except Fault PeerMessageBuffer
  | push now id msg => .ok (buffer.push now id msg)
  | pop call => (call.run buffer).map Prod.snd
  | drop first last => .ok (buffer.drop last first)
  | clear => .ok buffer.clear
  | copy => .ok buffer.copy

def step : Except Fault PeerMessageBuffer → BufferCall →
    Option (Except Fault PeerMessageBuffer)
  | .error _, _ => none
  | .ok buffer, call => if call.Permitted buffer then some (call.apply buffer) else none

/-- What `refresh_tick` does to an entry is to drop a range of its queue. -/
theorem apply_drop_eq_expire (now : ℕ) (buffer : PeerMessageBuffer) :
    ∃ last, (drop 0 last).Permitted buffer ∧
      (drop 0 last).apply buffer = .ok (buffer.expire now) :=
  ⟨_, ⟨Nat.zero_le _, UpperBound.upperBound_le_length⟩, rfl⟩

/-- The state after a call is a buffer whose counter is right. -/
def IsAccounted (state : Except Fault PeerMessageBuffer) : Prop :=
  ∃ buffer, state = .ok buffer ∧ buffer.Accounted

/-- Nothing is taken out past the counter, and no end of a queue is erased. -/
def Counts (buffer : PeerMessageBuffer) : BufferCall → Prop
  | pop (.popById id .none) => buffer.msgQueue = [] ∨
      ∃ received ∈ buffer.msgQueue, received.id = id
  | drop first last => first = last
  | clear => buffer.msgQueue = []
  | _ => True

def Meets (state : Except Fault PeerMessageBuffer) (call : BufferCall) : Prop :=
  ∀ buffer, state = .ok buffer → call.Permitted buffer → call.Counts buffer

theorem isAccounted_ok_iff {buffer : PeerMessageBuffer} :
    IsAccounted (.ok buffer) ↔ buffer.Accounted := by
  constructor
  · rintro ⟨other, heq, hother⟩
    rwa [Except.ok.inj heq]
  · exact fun haccounted => ⟨buffer, rfl, haccounted⟩

/-- `pop` keeps the counter right. -/
theorem accounted_pop {buffer : PeerMessageBuffer} (haccounted : buffer.Accounted) (idx : ℕ)
    (flag : PopFlag) : (buffer.pop idx flag).2.Accounted := by
  cases hqueue : buffer.msgQueue[idx]? with
  | none =>
      simp only [PeerMessageBuffer.pop, hqueue]
      exact haccounted
  | some received =>
      cases flag with
      | peek =>
          simp only [PeerMessageBuffer.pop, hqueue]
          exact haccounted
      | none =>
          obtain ⟨hlt, -⟩ := List.getElem?_eq_some_iff.mp hqueue
          simp only [PeerMessageBuffer.pop, hqueue, Accounted] at haccounted ⊢
          have hcounted : (1 : UInt64) ≤ buffer.dynamicMemUsageBytes := by
            rw [UInt64.le_iff_toNat_le, haccounted, UInt64.toNat_one]
            omega
          rw [List.length_eraseIdx_of_lt hlt, UInt64.toNat_sub_of_le _ _ hcounted, haccounted,
            UInt64.toNat_one]

/-- `push` counts the message. -/
theorem accounted_push {buffer : PeerMessageBuffer} (haccounted : buffer.Accounted)
    (hroom : buffer.msgQueue.length + 1 < 2 ^ 64) (now : ℕ) (id : Uuid) (msg : Message) :
    (buffer.push now id msg).Accounted := by
  simp only [PeerMessageBuffer.push, Accounted] at haccounted ⊢
  rw [UInt64.toNat_add, haccounted, UInt64.toNat_one, Nat.mod_eq_of_lt hroom,
    List.length_append, List.length_singleton]

/-- `drop` does not count: a range that is not empty makes the counter wrong. -/
theorem accounted_drop_iff {buffer : PeerMessageBuffer} (haccounted : buffer.Accounted)
    {first last : ℕ} (hrange : first ≤ last ∧ last ≤ buffer.msgQueue.length) :
    (buffer.drop last first).Accounted ↔ first = last := by
  simp only [PeerMessageBuffer.drop, Accounted] at haccounted ⊢
  rw [haccounted, List.length_append, List.length_take, List.length_drop]
  omega

/-- The calls of `pop_by_id` after which the counter is right. -/
theorem isAccounted_popById_iff {buffer : PeerMessageBuffer} (haccounted : buffer.Accounted)
    (id : Uuid) (flag : PopFlag) :
    IsAccounted ((buffer.popById id flag).map Prod.snd) ↔
      (pop (.popById id flag)).Counts buffer := by
  by_cases hempty : buffer.msgQueue = []
  · rw [popById_of_nil hempty]
    refine iff_of_true (isAccounted_ok_iff.mpr haccounted) ?_
    cases flag with
    | none => exact Or.inl hempty
    | peek => exact trivial
  · cases hidx : lastIdxOf buffer.msgQueue id with
    | some idx =>
        rw [popById_of_found hidx]
        obtain ⟨received, hreceived, hid⟩ := getElem?_of_lastIdxOf hidx
        refine iff_of_true (isAccounted_ok_iff.mpr (accounted_pop haccounted idx flag)) ?_
        cases flag with
        | none => exact Or.inr ⟨received, List.mem_of_getElem? hreceived, hid⟩
        | peek => exact trivial
    | none =>
        have habsent := lastIdxOf_eq_none_iff.mp hidx
        rw [popById_of_absent hempty habsent]
        cases flag with
        | peek => exact iff_of_true (isAccounted_ok_iff.mpr haccounted) trivial
        | none =>
            apply iff_of_false
            · rintro ⟨next, hnext, -⟩
              cases hnext
            · rintro (hnil | ⟨received, hreceived, hid⟩)
              · exact hempty hnil
              · exact habsent received hreceived hid

/-- A permitted call keeps the counter right exactly when nothing is taken out past it. -/
theorem isAccounted_apply_iff {buffer : PeerMessageBuffer} (haccounted : buffer.Accounted)
    {call : BufferCall} (hpermitted : call.Permitted buffer) :
    IsAccounted (call.apply buffer) ↔ call.Counts buffer := by
  cases call with
  | push now id msg =>
      exact iff_of_true
        (isAccounted_ok_iff.mpr (accounted_push haccounted hpermitted now id msg)) trivial
  | pop call =>
      cases call with
      | pop idx flag =>
          exact iff_of_true (isAccounted_ok_iff.mpr (accounted_pop haccounted idx flag)) trivial
      | popById id flag => exact isAccounted_popById_iff haccounted id flag
      | popSince since flag => exact iff_of_true (isAccounted_ok_iff.mpr haccounted) trivial
  | drop first last =>
      exact isAccounted_ok_iff.trans (accounted_drop_iff haccounted hpermitted)
  | clear =>
      refine isAccounted_ok_iff.trans ?_
      simp only [PeerMessageBuffer.clear, Accounted, Counts] at haccounted ⊢
      rw [haccounted, List.length_nil, List.length_eq_zero_iff]
  | copy => exact iff_of_true (isAccounted_ok_iff.mpr haccounted) trivial

/-- The counter is right after every call of exactly the runs that start with a counter
that happens to be zero, and whose calls take nothing out past it. -/
theorem throughout_isAccounted_iff (ep : Endpoint) (usage : UInt64) (calls : List BufferCall) :
    Runs.Throughout step IsAccounted (.ok (.make ep usage)) calls ↔
      usage = 0 ∧ Runs.Meets step Meets (.ok (.make ep usage)) calls := by
  have hexact (haccounted : IsAccounted (.ok (.make ep usage))) :
      Runs.Throughout step IsAccounted (.ok (.make ep usage)) calls ↔
        Runs.Meets step Meets (.ok (.make ep usage)) calls := by
    apply Runs.throughout_iff_meets fun _ => True
    · exact fun _ _ _ _ _ => trivial
    · rintro state call next - ⟨buffer, rfl, haccounted⟩ hstep
      obtain ⟨hpermitted, hnext⟩ := Option.ite_none_right_eq_some.mp hstep
      obtain rfl := Option.some.inj hnext
      rw [isAccounted_apply_iff haccounted hpermitted]
      constructor
      · rintro hcounts other heq -
        rwa [← Except.ok.inj heq]
      · exact fun hmeets => hmeets buffer rfl hpermitted
    · rintro state call hstuck buffer rfl hpermitted
      rw [step, if_pos hpermitted] at hstuck
      cases hstuck
    · trivial
    · exact haccounted
  have hstart : IsAccounted (.ok (.make ep usage)) ↔ usage = 0 := by
    rw [isAccounted_ok_iff, Accounted, ← UInt64.toNat_inj]
    rfl
  constructor
  · intro hthroughout
    have haccounted := Runs.first_of_throughout hthroughout
    exact ⟨hstart.mp haccounted, (hexact haccounted).mp hthroughout⟩
  · rintro ⟨hzero, hmeets⟩
    exact (hexact (hstart.mpr hzero)).mpr hmeets

/-- A counter that holds something else from the start, one that the range dropped by
`refresh_tick` leaves behind, and one that `clear` does. -/
theorem not_throughout_isAccounted :
    ¬ Runs.Throughout step IsAccounted (.ok (.make (nodeAt 2) 7)) [] ∧
      ∀ call ∈ [drop 0 1, clear],
        ¬ Runs.Throughout step IsAccounted (.ok (.make (nodeAt 2) 0))
          [.push 10 1 (.ofPart "chat" (.string "first")), call] := by
  constructor
  · intro hthroughout
    have haccounted := isAccounted_ok_iff.mp hthroughout
    cases haccounted
  · simp only [List.forall_mem_cons, List.not_mem_nil, false_implies, implies_true, and_true]
    constructor
    · intro hthroughout
      have hlast := Runs.last_of_throughout hthroughout rfl
      cases isAccounted_ok_iff.mp hlast
    · intro hthroughout
      have hlast := Runs.last_of_throughout hthroughout rfl
      cases isAccounted_ok_iff.mp hlast

end BufferCall

end SsP2p.Net

import Mathlib.Data.List.FinRange
import Mathlib.Data.List.TakeWhile
import Mathlib.Order.MinMax
import Mathlib.Tactic.Common

/-!
# How far sequences agree

Two sequences of the same length agree up to the first position where they differ.
Counting the positions before it measures how close they are: of three sequences, the two
smaller ones of the three counts are equal.  With two symbols only, sequences that part
from a third one at the same position agree there.
-/

namespace SsP2p.Agreement

variable {Symbol : Type*} [DecidableEq Symbol] {length : ℕ}

/-- The number of positions before the first one where two sequences differ. -/
def agreement (left right : Fin length → Symbol) : ℕ :=
  ((List.finRange length).takeWhile fun position =>
    decide (left position = right position)).length

/-- The first `count` items all satisfy a test exactly when the longest such prefix has
them. -/
theorem le_length_takeWhile_iff {Item : Type*} {test : Item → Bool} {items : List Item}
    {count : ℕ} :
    count ≤ (items.takeWhile test).length ↔
      count ≤ items.length ∧ ∀ item ∈ items.take count, test item = true := by
  induction items generalizing count with
  | nil => simp
  | cons head tail ih =>
      cases count with
      | zero => simp
      | succ count =>
          rw [List.takeWhile_cons, List.take_succ_cons, List.forall_mem_cons, List.length_cons,
            Nat.add_le_add_iff_right]
          by_cases hhead : test head = true
          · rw [if_pos hhead, List.length_cons, Nat.add_le_add_iff_right, ih,
              and_iff_right hhead]
          · rw [if_neg hhead, List.length_nil]
            exact iff_of_false (Nat.not_succ_le_zero count) fun hboth => hhead hboth.2.1

theorem le_agreement_iff {left right : Fin length → Symbol} {count : ℕ} :
    count ≤ agreement left right ↔
      count ≤ length ∧ ∀ position : Fin length, position.val < count →
        left position = right position := by
  rw [agreement, le_length_takeWhile_iff, List.length_finRange]
  apply and_congr_right
  intro hcount
  constructor
  · intro hprefix position hposition
    apply of_decide_eq_true
    apply hprefix
    rw [List.mem_take_iff_getElem]
    refine ⟨position.val, ?_, ?_⟩
    · rw [List.length_finRange]
      exact lt_min hposition position.isLt
    · exact List.getElem_finRange _
  · intro hshared position hposition
    obtain ⟨index, hindex, rfl⟩ := List.mem_take_iff_getElem.mp hposition
    rw [decide_eq_true_eq, List.getElem_finRange]
    exact hshared _ (hindex.trans_le (min_le_left _ _))

theorem agreement_le (left right : Fin length → Symbol) : agreement left right ≤ length :=
  (le_agreement_iff.mp le_rfl).1

theorem agreement_comm (left right : Fin length → Symbol) :
    agreement left right = agreement right left := by
  apply eq_of_forall_le_iff
  intro count
  simp only [le_agreement_iff, eq_comm]

/-- Sequences that agree everywhere are equal. -/
theorem agreement_eq_length_iff {left right : Fin length → Symbol} :
    agreement left right = length ↔ left = right := by
  rw [eq_iff_le_not_lt, not_lt, le_agreement_iff, funext_iff]
  constructor
  · intro hall position
    exact hall.2.2 position position.isLt
  · intro hall
    exact ⟨agreement_le left right, le_rfl, fun position _ => hall position⟩

/-- Where two sequences part, they differ. -/
theorem ne_at_agreement {left right : Fin length → Symbol}
    (hlt : agreement left right < length) :
    left ⟨agreement left right, hlt⟩ ≠ right ⟨agreement left right, hlt⟩ := by
  intro heq
  have hlonger : agreement left right + 1 ≤ agreement left right := by
    rw [le_agreement_iff]
    refine ⟨hlt, fun position hposition => ?_⟩
    cases (Nat.lt_succ_iff.mp hposition).lt_or_eq with
    | inl hbefore => exact (le_agreement_iff.mp le_rfl).2 position hbefore
    | inr hthere =>
        obtain rfl : position = ⟨agreement left right, hlt⟩ := Fin.ext hthere
        exact heq
  exact absurd hlonger (Nat.not_succ_le_self _)

/-- What a sequence shares with two others they share with each other. -/
theorem min_le_agreement (left middle right : Fin length → Symbol) :
    min (agreement left middle) (agreement middle right) ≤ agreement left right := by
  rw [le_agreement_iff]
  refine ⟨(min_le_left _ _).trans (agreement_le left middle), fun position hposition => ?_⟩
  calc left position
      = middle position :=
        (le_agreement_iff.mp le_rfl).2 position (hposition.trans_le (min_le_left _ _))
    _ = right position :=
        (le_agreement_iff.mp le_rfl).2 position (hposition.trans_le (min_le_right _ _))

/-- Of a sequence and two others that part from it at different positions, the two others
part at the first of them. -/
theorem agreement_eq_min {left middle right : Fin length → Symbol}
    (hne : agreement left middle ≠ agreement middle right) :
    agreement left right = min (agreement left middle) (agreement middle right) := by
  have hleft := min_le_agreement left right middle
  have hright := min_le_agreement middle left right
  rw [agreement_comm right middle] at hleft
  rw [agreement_comm middle left] at hright
  apply le_antisymm
  · cases lt_or_gt_of_ne hne with
    | inl hlt =>
        rw [min_eq_left hlt.le]
        exact (min_le_iff.mp hleft).resolve_right (not_le_of_gt hlt)
    | inr hgt =>
        rw [min_eq_right hgt.le]
        exact (min_le_iff.mp hright).resolve_left (not_le_of_gt hgt)
  · exact min_le_agreement left middle right

/-- What a measure of closeness with `top` for equal items satisfies when close items form
the subtrees of a tree. -/
structure IsUltrametric {Item : Type*} (close : Item → Item → ℕ) (top : ℕ) : Prop where
  symm : ∀ left right, close left right = close right left
  eq_top_iff : ∀ left right, close left right = top ↔ left = right
  min_le : ∀ left middle right,
    min (close left middle) (close middle right) ≤ close left right
  eq_min : ∀ left middle right, close left middle ≠ close middle right →
    close left right = min (close left middle) (close middle right)

/-- Items that are told apart by sequences are as close as these agree. -/
theorem isUltrametric_agreement {Item : Type*} {symbols : Item → Fin length → Symbol}
    (hinjective : Function.Injective symbols) :
    IsUltrametric (fun left right => agreement (symbols left) (symbols right)) length where
  symm _ _ := agreement_comm _ _
  eq_top_iff _ _ := agreement_eq_length_iff.trans hinjective.eq_iff
  min_le _ _ _ := min_le_agreement _ _ _
  eq_min _ _ _ hne := agreement_eq_min hne

/-- With two symbols, sequences that part from a third one at the same position agree
there. -/
theorem lt_agreement_of_eq {base left right : Fin length → Bool}
    (hlt : agreement base left < length) (heq : agreement base left = agreement base right) :
    agreement base left < agreement left right := by
  rw [Nat.lt_iff_add_one_le, le_agreement_iff]
  refine ⟨hlt, fun position hposition => ?_⟩
  cases (Nat.lt_succ_iff.mp hposition).lt_or_eq with
  | inl hbefore =>
      calc left position
          = base position := ((le_agreement_iff.mp le_rfl).2 position hbefore).symm
        _ = right position := (le_agreement_iff.mp le_rfl).2 position (heq ▸ hbefore)
  | inr hthere =>
      have hright : agreement base right < length := heq ▸ hlt
      obtain rfl : position = ⟨agreement base left, hlt⟩ := Fin.ext hthere
      have hsame : (⟨agreement base left, hlt⟩ : Fin length) = ⟨agreement base right, hright⟩ :=
        Fin.ext heq
      have hneLeft := ne_at_agreement hlt
      have hneRight := ne_at_agreement hright
      rw [← hsame] at hneRight
      exact Bool.not_inj ((Bool.eq_not_iff.mpr hneLeft).symm.trans (Bool.eq_not_iff.mpr hneRight))

end SsP2p.Agreement

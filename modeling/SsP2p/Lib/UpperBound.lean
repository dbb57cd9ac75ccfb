import Mathlib.Data.List.Basic

/-!
# Upper bounds by bisection

`std::upper_bound` halves a range until it is empty.  In a list where everything behind
an item that is above the bound is above it too, it ends at the first item above the
bound.
-/

namespace SsP2p.UpperBound

variable {α : Type*} (above : α → Bool) (items : List α)

/-- The loop on the `len` items from position `first` on. -/
def loop (first len : ℕ) : ℕ :=
  if len = 0 then first
  else if items[first + len / 2]?.any above then loop first (len / 2)
  else loop (first + len / 2 + 1) (len - len / 2 - 1)
termination_by len

def upperBound : ℕ := loop above items 0 items.length

variable {above items}

theorem loop_le (first len : ℕ) : loop above items first len ≤ first + len := by
  fun_induction loop above items first len with
  | case1 first => omega
  | case2 first len hlen habove ih => omega
  | case3 first len hlen hbelow ih => omega

theorem upperBound_le_length : upperBound above items ≤ items.length := by
  have hle := @loop_le _ above items 0 items.length
  rwa [Nat.zero_add] at hle

/-- Nothing before `first` is above the bound, and everything from `last` on is. -/
structure Brackets (above : α → Bool) (items : List α) (first last : ℕ) : Prop where
  before : ∀ item ∈ items.take first, above item = false
  behind : ∀ item ∈ items.drop last, above item = true

section Sorted

variable (hsorted : items.Pairwise fun left right => above left = true → above right = true)

include hsorted

/-- Where an item is above the bound, everything from it on is. -/
theorem behind_of_above {middle : ℕ} {item : α} (hitem : items[middle]? = some item)
    (habove : above item = true) : ∀ other ∈ items.drop middle, above other = true := by
  obtain ⟨hmiddle, rfl⟩ := List.getElem?_eq_some_iff.mp hitem
  have hdrop := hsorted.drop (i := middle)
  rw [List.drop_eq_getElem_cons hmiddle, List.pairwise_cons] at hdrop
  rw [List.drop_eq_getElem_cons hmiddle, List.forall_mem_cons]
  exact ⟨habove, fun other hother => hdrop.1 other hother habove⟩

/-- Where an item is not above the bound, nothing up to it is. -/
theorem before_of_not_above {middle : ℕ} {item : α} (hitem : items[middle]? = some item)
    (hbelow : above item = false) :
    ∀ other ∈ items.take (middle + 1), above other = false := by
  obtain ⟨hmiddle, rfl⟩ := List.getElem?_eq_some_iff.mp hitem
  have htake := hsorted.take (i := middle + 1)
  rw [List.take_succ_eq_append_getElem hmiddle, List.pairwise_append] at htake
  rw [List.take_succ_eq_append_getElem hmiddle, List.forall_mem_append]
  constructor
  · intro other hother
    rw [← Bool.not_eq_true]
    intro habove
    have hlater := htake.2.2 other hother _ (List.mem_singleton_self _) habove
    rw [hbelow] at hlater
    cases hlater
  · intro other hother
    rw [List.mem_singleton.mp hother]
    exact hbelow

/-- The loop keeps the bound in its range until the range is empty. -/
theorem brackets_loop (first len : ℕ) (hrange : first + len ≤ items.length)
    (hbrackets : Brackets above items first (first + len)) :
    Brackets above items (loop above items first len) (loop above items first len) := by
  fun_induction loop above items first len with
  | case1 first => exact hbrackets
  | case2 first len hlen habove ih =>
      obtain ⟨item, hitem, habove⟩ := (Option.any_eq_true _ _).mp habove
      apply ih
      · omega
      · exact ⟨hbrackets.before, behind_of_above hsorted hitem habove⟩
  | case3 first len hlen hbelow ih =>
      have hmiddle : first + len / 2 < items.length := by omega
      have hlast : first + len / 2 + 1 + (len - len / 2 - 1) = first + len := by omega
      have hitem : items[first + len / 2]? = some items[first + len / 2] :=
        List.getElem?_eq_getElem hmiddle
      rw [hitem, Option.any_some, Bool.not_eq_true] at hbelow
      apply ih
      · exact hlast ▸ hrange
      · rw [hlast]
        exact ⟨before_of_not_above hsorted hitem hbelow, hbrackets.behind⟩

/-- What is left from the upper bound on is what is above the bound. -/
theorem drop_upperBound : items.drop (upperBound above items) = items.filter above := by
  have hbrackets : Brackets above items (upperBound above items) (upperBound above items) := by
    apply brackets_loop hsorted
    · exact Nat.le_of_eq (Nat.zero_add _)
    · constructor
      · intro item hitem
        rw [List.take_zero] at hitem
        cases hitem
      · intro item hitem
        rw [Nat.zero_add, List.drop_length] at hitem
        cases hitem
  have hbefore : (items.take (upperBound above items)).filter above = [] := by
    apply List.filter_eq_nil_iff.mpr
    intro item hitem
    rw [hbrackets.before item hitem]
    exact Bool.false_ne_true
  calc items.drop (upperBound above items)
      = (items.drop (upperBound above items)).filter above :=
        (List.filter_eq_self.mpr hbrackets.behind).symm
    _ = (items.take (upperBound above items)).filter above ++
        (items.drop (upperBound above items)).filter above := by
        rw [hbefore, List.nil_append]
    _ = items.filter above := by
        rw [← List.filter_append, List.take_append_drop]

/-- At the upper bound is the first item above the bound. -/
theorem getElem?_upperBound : items[upperBound above items]? = items.find? above := by
  rw [← List.head?_drop, drop_upperBound hsorted, List.head?_filter]

end Sorted

end SsP2p.UpperBound

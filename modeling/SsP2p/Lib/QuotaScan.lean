import Mathlib.Data.List.Basic
import Mathlib.Data.Nat.Notation
import Mathlib.Order.Lattice
import Mathlib.Tactic.Common

/-!
# Collecting items up to a quota

Segments of items are visited one after the other, and each is asked for as many
items as are missing.  A segment gives at least one item away when it has one.
In the scan below the quota is looked at before every round only, and a round
visits two segments, so that the second segment of the round in which the first
one meets the quota gives one item too many.
-/

namespace SsP2p.QuotaScan

variable {Item : Type*} (quota : ℕ)

/-- A segment is asked for what is missing, and gives at least one item. -/
def draw (collected segment : List Item) : List Item :=
  collected ++ segment.take (max (quota - collected.length) 1)

/-- A round is two segments. -/
abbrev Round (Item : Type*) := List Item × List Item

def visit (collected : List Item) (round : Round Item) : List Item :=
  draw quota (draw quota collected round.1) round.2

/-- The scan stops before the first round at which the quota is met. -/
def scan : List Item → List (Round Item) → List Item
  | collected, [] => collected
  | collected, round :: rounds =>
      if collected.length < quota then scan (visit quota collected round) rounds
      else collected

/-- All items of the rounds in the order of the scan. -/
def items (rounds : List (Round Item)) : List Item :=
  rounds.flatMap fun round => round.1 ++ round.2

/-- What the scan collects beyond the quota; `count` items come before the rounds. -/
def surplus : ℕ → List (Round Item) → List Item
  | _, [] => []
  | count, round :: rounds =>
      if count < quota then
        if quota ≤ count + round.1.length then round.2.take 1
        else surplus (count + round.1.length + round.2.length) rounds
      else []

variable {quota}

@[simp]
theorem items_nil : items ([] : List (Round Item)) = [] := rfl

@[simp]
theorem items_cons (round : Round Item) (rounds : List (Round Item)) :
    items (round :: rounds) = round.1 ++ round.2 ++ items rounds := rfl

@[simp]
theorem items_append (before after : List (Round Item)) :
    items (before ++ after) = items before ++ items after :=
  List.flatMap_append

@[simp]
theorem draw_nil (collected : List Item) : draw quota collected [] = collected := by
  rw [draw, List.take_nil, List.append_nil]

/-- Below the quota a segment gives what is missing and no more. -/
theorem draw_of_lt {collected : List Item} (hlt : collected.length < quota)
    (segment : List Item) :
    draw quota collected segment = (collected ++ segment).take quota := by
  have hpositive : 1 ≤ quota - collected.length := Nat.sub_pos_of_lt hlt
  rw [draw, max_eq_left hpositive, List.take_append, List.take_of_length_le hlt.le]

/-- Once the quota is met, one more item is drawn. -/
theorem draw_of_le {collected : List Item} (hmet : quota ≤ collected.length)
    (segment : List Item) :
    draw quota collected segment = collected ++ segment.take 1 := by
  rw [draw, Nat.sub_eq_zero_of_le hmet, max_eq_right (Nat.zero_le 1)]

theorem scan_of_le {collected : List Item} (hmet : quota ≤ collected.length)
    (rounds : List (Round Item)) : scan quota collected rounds = collected := by
  cases rounds with
  | nil => rfl
  | cons round rounds => rw [scan, if_neg (Nat.not_lt_of_le hmet)]

theorem surplus_of_le {count : ℕ} (hmet : quota ≤ count) (rounds : List (Round Item)) :
    surplus quota count rounds = [] := by
  cases rounds with
  | nil => rfl
  | cons round rounds => rw [surplus, if_neg (Nat.not_lt_of_le hmet)]

theorem length_draw_le {collected : List Item} (hlt : collected.length < quota)
    (segment : List Item) : (draw quota collected segment).length ≤ quota := by
  rw [draw_of_lt hlt]
  exact List.length_take_le _ _

/-- The scan collects the first items of all, and the surplus. -/
theorem scan_eq {collected : List Item} (hle : collected.length ≤ quota)
    (rounds : List (Round Item)) :
    scan quota collected rounds =
      (collected ++ items rounds).take quota ++
        surplus quota collected.length rounds := by
  induction rounds generalizing collected with
  | nil => simp [scan, surplus, List.take_of_length_le hle]
  | cons round rounds ih =>
      by_cases hlt : collected.length < quota
      · rw [scan, if_pos hlt, visit, draw_of_lt hlt, surplus, if_pos hlt]
        by_cases hfirst : quota ≤ collected.length + round.1.length
        · have hmet : quota ≤ ((collected ++ round.1).take quota).length := by
            rw [List.length_take, List.length_append]
            omega
          have hprefix : (collected ++ items (round :: rounds)).take quota =
              (collected ++ round.1).take quota := by
            rw [items_cons, List.append_assoc, ← List.append_assoc,
              List.take_append_of_le_length]
            rwa [List.length_append]
          rw [if_pos hfirst, draw_of_le hmet, hprefix,
            scan_of_le (hmet.trans (by rw [List.length_append]; omega))]
        · have hshort : (collected ++ round.1).length < quota := by
            rw [List.length_append]
            omega
          rw [if_neg hfirst, List.take_of_length_le hshort.le, draw_of_lt hshort]
          by_cases hsecond : (collected ++ round.1 ++ round.2).length ≤ quota
          · rw [List.take_of_length_le hsecond, ih hsecond, items_cons]
            simp only [List.length_append, List.append_assoc, Nat.add_assoc]
          · have hmet : quota ≤ (collected ++ round.1 ++ round.2).length := by omega
            have hpast : quota ≤
                collected.length + round.1.length + round.2.length := by
              simpa only [List.length_append] using hmet
            rw [scan_of_le (by rw [List.length_take]; omega), surplus_of_le hpast,
              List.append_nil, items_cons, ← List.append_assoc, ← List.append_assoc,
              List.take_append_of_le_length hmet]
      · have hmet : quota ≤ collected.length := Nat.le_of_not_lt hlt
        rw [scan_of_le hmet, surplus_of_le hmet, List.append_nil,
          List.take_append_of_le_length hmet, List.take_of_length_le hle]

/-- Where the surplus comes from. -/
theorem exists_of_mem_surplus {count : ℕ} {rounds : List (Round Item)} {item : Item}
    (hitem : item ∈ surplus quota count rounds) :
    ∃ before round after, rounds = before ++ round :: after ∧
      count + (items before).length < quota ∧
      quota ≤ count + (items before).length + round.1.length ∧
      surplus quota count rounds = round.2.take 1 := by
  induction rounds generalizing count with
  | nil => cases hitem
  | cons round rounds ih =>
      by_cases hlt : count < quota
      · rw [surplus, if_pos hlt] at hitem ⊢
        by_cases hfirst : quota ≤ count + round.1.length
        · rw [if_pos hfirst]
          exact ⟨[], round, rounds, rfl, hlt, hfirst, rfl⟩
        · rw [if_neg hfirst] at hitem ⊢
          obtain ⟨before, other, after, rfl, hbefore, hother, heq⟩ := ih hitem
          refine ⟨round :: before, other, after, rfl, ?_, ?_, heq⟩
          · simp only [items_cons, List.length_append]
            omega
          · simp only [items_cons, List.length_append]
            omega
      · rw [surplus, if_neg hlt] at hitem
        cases hitem

/-- The surplus is empty exactly when no round meets the quota with its first
segment and has an item in its second. -/
theorem surplus_eq_nil_iff {count : ℕ} {rounds : List (Round Item)} :
    surplus quota count rounds = [] ↔
      ∀ (position : ℕ) (round : Round Item), rounds[position]? = some round →
        count + (items (rounds.take position)).length < quota →
        quota ≤ count + (items (rounds.take position)).length + round.1.length →
        round.2 = [] := by
  constructor
  · intro hnil position
    induction position generalizing count rounds with
    | zero =>
        intro round hround hlt hfirst
        obtain ⟨after, rfl⟩ : ∃ after, rounds = round :: after := by
          cases rounds with
          | nil => cases hround
          | cons head after => exact ⟨after, congrArg (· :: after) (Option.some.inj hround)⟩
        simp only [List.take_zero, items_nil, List.length_nil, Nat.add_zero] at hlt hfirst
        rw [surplus, if_pos hlt, if_pos hfirst] at hnil
        exact (List.take_eq_nil_iff.mp hnil).resolve_left Nat.one_ne_zero
    | succ position ih =>
        intro round hround hlt hfirst
        cases rounds with
        | nil => cases hround
        | cons head rounds =>
            rw [List.getElem?_cons_succ] at hround
            simp only [List.take_succ_cons, items_cons, List.length_append] at hlt hfirst
            rw [surplus, if_pos (by omega), if_neg (by omega)] at hnil
            exact ih hnil round hround (by omega) (by omega)
  · intro hnone
    by_contra hsome
    obtain ⟨item, hitem⟩ := List.exists_mem_of_ne_nil _ hsome
    obtain ⟨before, round, after, rfl, hlt, hfirst, hsurplus⟩ := exists_of_mem_surplus hitem
    rw [hsurplus, hnone before.length round (by simp) (by simpa using hlt)
      (by simpa using hfirst)] at hsome
    exact hsome rfl

/-- A surplus comes from an item that is left. -/
theorem lt_length_of_surplus {count : ℕ} {rounds : List (Round Item)}
    (hsurplus : surplus quota count rounds ≠ []) :
    quota < count + (items rounds).length := by
  obtain ⟨item, hitem⟩ := List.exists_mem_of_ne_nil _ hsurplus
  obtain ⟨before, round, after, rfl, -, hfirst, heq⟩ := exists_of_mem_surplus hitem
  rw [heq] at hitem
  have hsecond := List.length_pos_of_mem (List.mem_of_mem_take hitem)
  simp only [items_append, items_cons, List.length_append]
  omega

/-! ## What is collected -/

section Collected

variable {collected : List Item} (hle : collected.length ≤ quota)
  (rounds : List (Round Item))

include hle

/-- Fewer than the quota are collected only when there are no more. -/
theorem scan_of_short (hshort : (scan quota collected rounds).length < quota) :
    scan quota collected rounds = collected ++ items rounds := by
  have hall : (collected ++ items rounds).length ≤ quota := by
    rw [scan_eq hle, List.length_append, List.length_take] at hshort
    omega
  have hnone : surplus quota collected.length rounds = [] := by
    by_contra hsurplus
    have hlt := lt_length_of_surplus hsurplus
    rw [List.length_append] at hall
    omega
  rw [scan_eq hle, hnone, List.append_nil, List.take_of_length_le hall]

/-- What is collected stands in the order of the scan. -/
theorem scan_sublist :
    (scan quota collected rounds).Sublist (collected ++ items rounds) := by
  rw [scan_eq hle]
  by_cases hnil : surplus quota collected.length rounds = []
  · rw [hnil, List.append_nil]
    exact List.take_sublist _ _
  · obtain ⟨item, hitem⟩ := List.exists_mem_of_ne_nil _ hnil
    obtain ⟨before, round, after, rfl, -, hfirst, heq⟩ := exists_of_mem_surplus hitem
    have hsplit : collected ++ items (before ++ round :: after) =
        (collected ++ items before ++ round.1) ++ (round.2 ++ items after) := by
      simp only [items_append, items_cons, List.append_assoc]
    have hprefix : quota ≤ (collected ++ items before ++ round.1).length := by
      simpa only [List.length_append] using hfirst
    rw [heq, hsplit, List.take_append_of_le_length hprefix]
    apply (List.take_sublist _ _).append
    exact (List.take_sublist _ _).trans (List.sublist_append_left _ _)

/-- When the items are ordered by a rank that both segments of a round share, no item
is left out for one of a higher rank. -/
theorem mem_scan_of_rank_lt {Rank : Type*} [Preorder Rank] (rank : Item → Rank)
    (hsorted : (collected ++ items rounds).Pairwise fun first second =>
      rank first ≤ rank second)
    (hround : ∀ round ∈ rounds, ∀ first ∈ round.1, ∀ second ∈ round.2,
      rank second ≤ rank first)
    {item other : Item} (hitem : item ∈ collected ++ items rounds)
    (hother : other ∈ scan quota collected rounds) (hlt : rank item < rank other) :
    item ∈ scan quota collected rounds := by
  rw [scan_eq hle] at hother ⊢
  apply List.mem_append_left
  rw [← List.take_append_drop quota (collected ++ items rounds)] at hsorted hitem
  have hacross := (List.pairwise_append.mp hsorted).2.2
  apply (List.mem_append.mp hitem).resolve_right
  intro hdropped
  have hnot : ∀ taken ∈ (collected ++ items rounds).take quota,
      ¬ rank item < rank taken := fun taken htaken =>
    not_lt_of_ge (hacross taken htaken item hdropped)
  cases List.mem_append.mp hother with
  | inl htaken => exact hnot other htaken hlt
  | inr hsurplus =>
      obtain ⟨before, round, after, rfl, hbefore, hfirst, heq⟩ :=
        exists_of_mem_surplus hsurplus
      rw [heq] at hsurplus
      have hpositive : 0 < round.1.length := by omega
      have htaken : round.1[0] ∈
          (collected ++ items (before ++ round :: after)).take quota := by
        simp only [items_append, items_cons, List.append_assoc]
        rw [← List.append_assoc, List.take_append, List.take_of_length_le]
        · apply List.mem_append_right
          rw [List.take_append]
          apply List.mem_append_left
          rw [List.mem_take_iff_getElem]
          refine ⟨0, ?_, rfl⟩
          rw [List.length_append]
          omega
        · rw [List.length_append]
          exact hbefore.le
      exact hnot _ htaken (hlt.trans_le (hround round (by simp) _
        (List.getElem_mem hpositive) other (List.mem_of_mem_take hsurplus)))

/-- Of the items that one segment has all of, the first ones are collected. -/
theorem filter_scan_prefix (select : Item → Bool)
    (hseparate : ∀ (position : ℕ) (round : Round Item), rounds[position]? = some round →
      ∀ item ∈ round.2, select item = true →
        ∀ other ∈ collected ++ items (rounds.take position) ++ round.1,
          select other = false) :
    ((scan quota collected rounds).filter select) <+:
      (collected ++ items rounds).filter select := by
  rw [scan_eq hle]
  cases hselected : (surplus quota collected.length rounds).filter select with
  | nil =>
      rw [List.filter_append, hselected, List.append_nil]
      exact (List.take_prefix _ _).filter select
  | cons item rest =>
      have hitem : item ∈ (surplus quota collected.length rounds).filter select := by
        rw [hselected]
        exact List.mem_cons_self
      obtain ⟨hsurplus, hselect⟩ := List.mem_filter.mp hitem
      obtain ⟨before, round, after, rfl, -, hfirst, heq⟩ := exists_of_mem_surplus hsurplus
      rw [heq] at hsurplus
      have hnone : (collected ++ items before ++ round.1).filter select = [] := by
        rw [List.filter_eq_nil_iff]
        intro other hother
        rw [hseparate before.length round (by simp) item (List.mem_of_mem_take hsurplus)
          hselect other (by simpa using hother)]
        exact Bool.false_ne_true
      have hsplit : collected ++ items (before ++ round :: after) =
          (collected ++ items before ++ round.1) ++ (round.2 ++ items after) := by
        simp only [items_append, items_cons, List.append_assoc]
      have hlength : quota ≤ (collected ++ items before ++ round.1).length := by
        simpa only [List.length_append] using hfirst
      have hnoneTaken : ((collected ++ items before ++ round.1).take quota).filter select =
          [] := by
        apply List.eq_nil_of_prefix_nil
        rw [← hnone]
        exact (List.take_prefix _ _).filter select
      rw [heq, hsplit, List.take_append_of_le_length hlength, List.filter_append,
        hnoneTaken, List.nil_append, List.filter_append, hnone, List.nil_append,
        List.filter_append]
      exact ((List.take_prefix _ _).filter select).trans (List.prefix_append _ _)

end Collected

end SsP2p.QuotaScan

import Std.Data.TreeMap.Lemmas
import Mathlib.Algebra.Group.Nat.Defs
import Mathlib.Data.List.Count
import Mathlib.Data.List.Induction
import Mathlib.Data.Nat.Notation

/-!
# Plurality votes

Ballots are counted in an ordered map of 16-bit counters, the entries are sorted
by their counters, and the first one wins.  The winner was voted for and nobody
has more votes; which of several such candidates wins is up to the sort, but it
depends on the ballots as a multiset only.
-/

namespace SsP2p

/-- `std::sort` with the comparison `before`: it is not stable, and fixes no more
than that the result is an ordered rearrangement. -/
structure StdSort {Item : Type*} (before : Item → Item → Prop) where
  sort : List Item → List Item
  perm : ∀ items, (sort items).Perm items
  sorted : ∀ items, (sort items).Pairwise fun first second => ¬ before second first

namespace Plurality

variable {Candidate : Type*}

def MoreVotes (first second : Candidate × UInt16) : Prop := first.2 > second.2

def atLeast (first second : Candidate × UInt16) : Bool :=
  decide (second.2.toNat ≤ first.2.toNat)

theorem atLeast_trans (first second third : Candidate × UInt16)
    (hfirst : atLeast first second = true) (hsecond : atLeast second third = true) :
    atLeast first third = true := by
  simp only [atLeast, decide_eq_true_eq] at hfirst hsecond ⊢
  exact Nat.le_trans hsecond hfirst

theorem atLeast_total (first second : Candidate × UInt16) :
    (atLeast first second || atLeast second first) = true := by
  simp only [atLeast, Bool.or_eq_true, decide_eq_true_eq]
  exact Nat.le_total _ _

theorem not_moreVotes_iff {first second : Candidate × UInt16} :
    ¬ MoreVotes second first ↔ atLeast first second = true := by
  simp only [MoreVotes, atLeast, gt_iff_lt, UInt16.lt_iff_toNat_lt, decide_eq_true_eq,
    Nat.not_lt]

theorem mergeSort_sorted (entries : List (Candidate × UInt16)) :
    (entries.mergeSort atLeast).Pairwise fun first second => ¬ MoreVotes second first :=
  (List.pairwise_mergeSort atLeast_trans atLeast_total entries).imp not_moreVotes_iff.mpr

/-- A merge sort is one of the sorts that `std::sort` may be. -/
def byMergeSort : StdSort (MoreVotes : Candidate × UInt16 → _ → Prop) where
  sort entries := entries.mergeSort atLeast
  perm entries := List.mergeSort_perm entries atLeast
  sorted entries := mergeSort_sorted entries

/-- Another one puts the entries of one candidate before those with as many votes. -/
def favouring [DecidableEq Candidate] (candidate : Candidate) :
    StdSort (MoreVotes : Candidate × UInt16 → _ → Prop) where
  sort entries :=
    (entries.filter (fun entry => entry.1 = candidate) ++
      entries.filter (fun entry => !decide (entry.1 = candidate))).mergeSort atLeast
  perm entries := (List.mergeSort_perm _ atLeast).trans (List.filter_append_perm _ entries)
  sorted _ := mergeSort_sorted _

/-- An entry in front stays there when no other has more votes. -/
theorem head?_mergeSort_cons {entry : Candidate × UInt16}
    {entries : List (Candidate × UInt16)}
    (hmost : ∀ other ∈ entries, atLeast entry other = true) :
    ((entry :: entries).mergeSort atLeast).head? = some entry := by
  obtain ⟨before, after, hsorted, hrest, hmore⟩ :=
    List.mergeSort_cons atLeast_trans atLeast_total entry entries
  have hbefore : before = [] := by
    apply List.eq_nil_iff_forall_not_mem.mpr
    intro other hother
    have hmem : other ∈ entries := by
      have hsome : other ∈ entries.mergeSort atLeast := by
        rw [hrest]
        exact List.mem_append_left after hother
      exact List.mem_mergeSort.mp hsome
    have hnot := hmore other hother
    rw [hmost other hmem] at hnot
    cases hnot
  rw [hsorted, hbefore]
  rfl

variable [Ord Candidate]

def count (counter : Std.TreeMap Candidate UInt16) (ballot : Candidate) :
    Std.TreeMap Candidate UInt16 :=
  counter.alter ballot fun votes => some (votes.getD 0 + 1)

/-- The counters of all candidates that were voted for. -/
def tally (ballots : List Candidate) : Std.TreeMap Candidate UInt16 :=
  ballots.foldl count ∅

/-- The candidate in front of the sorted entries. -/
def elect (sort : StdSort (MoreVotes : Candidate × UInt16 → _ → Prop))
    (ballots : List Candidate) : Option Candidate :=
  ((sort.sort (tally ballots).toList).head?).map Prod.fst

variable [Std.TransOrd Candidate] [Std.LawfulEqOrd Candidate] [DecidableEq Candidate]

theorem getElem?_tally (ballots : List Candidate) (candidate : Candidate) :
    (tally ballots)[candidate]? =
      if candidate ∈ ballots then some (UInt16.ofNat (ballots.count candidate))
      else none := by
  induction ballots using List.reverseRecOn with
  | nil => simp [tally]
  | append_singleton ballots ballot ih =>
      rw [tally] at ih
      rw [tally, List.foldl_append, List.foldl_cons, List.foldl_nil, count,
        Std.TreeMap.getElem?_alter]
      by_cases hsame : ballot = candidate
      · subst hsame
        rw [if_pos (Std.LawfulEqOrd.compare_eq_iff_eq.mpr rfl), ih]
        by_cases hmem : ballot ∈ ballots
        · simp [hmem, UInt16.ofNat_add]
        · simp [hmem, List.count_eq_zero_of_not_mem hmem]
      · have hcompare : ¬ compare ballot candidate = .eq := fun heq =>
          hsame (Std.LawfulEqOrd.compare_eq_iff_eq.mp heq)
        rw [if_neg hcompare, ih]
        simp [hsame, Ne.symm hsame, List.count_append]

theorem mem_toList_tally {ballots : List Candidate} {candidate : Candidate}
    {votes : UInt16} :
    (candidate, votes) ∈ (tally ballots).toList ↔
      candidate ∈ ballots ∧ votes = UInt16.ofNat (ballots.count candidate) := by
  rw [Std.TreeMap.mem_toList_iff_getElem?_eq_some, getElem?_tally]
  by_cases hmem : candidate ∈ ballots
  · simp [hmem, eq_comm]
  · simp [hmem]

/-- The entries do not depend on the order of the ballots. -/
theorem toList_tally_of_perm {left right : List Candidate}
    (hperm : left.Perm right) : (tally left).toList = (tally right).toList := by
  apply Std.TreeMap.Equiv.toList_eq
  apply Std.TreeMap.Equiv.of_forall_constGet?_eq
  intro candidate
  rw [getElem?_tally, getElem?_tally, hperm.count_eq]
  simp [hperm.mem_iff]

variable (sort : StdSort (MoreVotes : Candidate × UInt16 → _ → Prop))

theorem elect_of_perm {left right : List Candidate} (hperm : left.Perm right) :
    elect sort left = elect sort right := by
  rw [elect, elect, toList_tally_of_perm hperm]

/-- The front of the entries is missing only when nobody voted. -/
theorem elect_eq_none_iff {ballots : List Candidate} :
    elect sort ballots = none ↔ ballots = [] := by
  rw [elect, Option.map_eq_none_iff, List.head?_eq_none_iff]
  constructor
  · intro hsorted
    have hempty : (tally ballots).toList = [] := by
      have hperm := sort.perm (tally ballots).toList
      rw [hsorted] at hperm
      exact hperm.nil_eq.symm
    refine List.eq_nil_iff_forall_not_mem.mpr fun candidate hmem => ?_
    have hentry := mem_toList_tally.mpr
      ⟨hmem, (rfl : UInt16.ofNat (ballots.count candidate) = _)⟩
    rw [hempty] at hentry
    cases hentry
  · rintro rfl
    exact (sort.perm _).eq_nil

/-- The winner was voted for, and no counter is larger than its own. -/
theorem elect_counter {ballots : List Candidate} {winner : Candidate}
    (helect : elect sort ballots = some winner) :
    winner ∈ ballots ∧ ∀ other ∈ ballots,
      UInt16.ofNat (ballots.count other) ≤ UInt16.ofNat (ballots.count winner) := by
  obtain ⟨⟨candidate, votes⟩, hhead, rfl⟩ := Option.map_eq_some_iff.mp helect
  obtain ⟨rest, hsorted⟩ := List.head?_eq_some_iff.mp hhead
  have hperm := sort.perm (tally ballots).toList
  have horder := sort.sorted (tally ballots).toList
  rw [hsorted] at hperm horder
  obtain ⟨hmem, hvotes⟩ := mem_toList_tally.mp
    (hperm.mem_iff.mp (List.mem_cons_self : (candidate, votes) ∈ _))
  refine ⟨hmem, fun other hother => ?_⟩
  have hentry : (other, UInt16.ofNat (ballots.count other)) ∈
      (candidate, votes) :: rest :=
    hperm.mem_iff.mpr (mem_toList_tally.mpr ⟨hother, rfl⟩)
  rcases List.mem_cons.mp hentry with heq | hrest
  · rw [(Prod.mk.inj heq).1]
    exact UInt16.le_refl _
  · have hle := (List.pairwise_cons.mp horder).1 _ hrest
    rw [MoreVotes, hvotes] at hle
    exact UInt16.not_lt.mp hle

/-- The winner was voted for, and nobody has more votes. -/
theorem elect_eq_some {ballots : List Candidate} {winner : Candidate}
    (hfew : ballots.length < 2 ^ 16) (helect : elect sort ballots = some winner) :
    winner ∈ ballots ∧
      ∀ other, ballots.count other ≤ ballots.count winner := by
  obtain ⟨hmem, hmost⟩ := elect_counter sort helect
  have hexact : ∀ candidate, (UInt16.ofNat (ballots.count candidate)).toNat =
      ballots.count candidate := by
    intro candidate
    rw [UInt16.toNat_ofNat']
    exact Nat.mod_eq_of_lt (Nat.lt_of_le_of_lt List.count_le_length hfew)
  refine ⟨hmem, fun other => ?_⟩
  by_cases hother : other ∈ ballots
  · have hle := hmost other hother
    rwa [UInt16.le_iff_toNat_le, hexact, hexact] at hle
  · rw [List.count_eq_zero_of_not_mem hother]
    exact Nat.zero_le _

/-- Whoever has a largest counter wins under some sort. -/
theorem elect_favouring {ballots : List Candidate} {candidate : Candidate}
    (hmem : candidate ∈ ballots)
    (hmost : ∀ other ∈ ballots,
      UInt16.ofNat (ballots.count other) ≤ UInt16.ofNat (ballots.count candidate)) :
    elect (favouring candidate) ballots = some candidate := by
  let entries := (tally ballots).toList
  have hentry : (candidate, UInt16.ofNat (ballots.count candidate)) ∈
      entries.filter (fun entry => entry.1 = candidate) :=
    List.mem_filter.mpr ⟨mem_toList_tally.mpr ⟨hmem, rfl⟩, decide_eq_true rfl⟩
  obtain ⟨⟨first, votes⟩, own, hown⟩ := List.exists_cons_of_ne_nil (List.ne_nil_of_mem hentry)
  have hfirst : (first, votes) ∈ entries.filter (fun entry => entry.1 = candidate) := by
    rw [hown]
    exact List.mem_cons_self
  obtain ⟨hlisted, hsame⟩ := List.mem_filter.mp hfirst
  obtain rfl : first = candidate := of_decide_eq_true hsame
  have hvotes := (mem_toList_tally.mp hlisted).2
  have hahead : ∀ other ∈ own ++ entries.filter (fun entry => !decide (entry.1 = first)),
      atLeast (first, votes) other = true := by
    rintro ⟨other, otherVotes⟩ hother
    have hpart : (other, otherVotes) ∈ entries := by
      rcases List.mem_append.mp hother with hof | hof
      · have hcons : (other, otherVotes) ∈ (first, votes) :: own :=
          List.mem_cons_of_mem _ hof
        rw [← hown] at hcons
        exact (List.mem_filter.mp hcons).1
      · exact (List.mem_filter.mp hof).1
    obtain ⟨hballot, rfl⟩ := mem_toList_tally.mp hpart
    simp only [atLeast, hvotes, decide_eq_true_eq]
    exact UInt16.le_iff_toNat_le.mp (hmost other hballot)
  have hsorted : (favouring first).sort entries =
      ((first, votes) ::
        (own ++ entries.filter fun entry => !decide (entry.1 = first))).mergeSort atLeast := by
    rw [← List.cons_append, ← hown]
    rfl
  rw [elect, hsorted, head?_mergeSort_cons hahead]
  rfl

end Plurality

end SsP2p

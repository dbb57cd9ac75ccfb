import Mathlib.Algebra.BigOperators.Group.List.Basic
import Mathlib.Algebra.Ring.Int.Defs
import SsP2p.Lib.Runs
import SsP2p.Kademlia.BucketIterator

/-!
# The branch and the position of a bucket iterator

An iterator keeps its branch and its position in the table as two numbers.
`operator++` moves both of them on by one.  `operator--` moves the position on where it
takes the branch back, and `to_begin` goes back by two buckets too many, so that each of
them leaves the position two buckets off, in opposite directions.
-/

namespace SsP2p.Kademlia

namespace KBucketIterator

/-- The bucket behind the iterator is the one at `get_branch() - 1`. -/
def Coherent (itr : KBucketIterator) : Prop :=
  ∃ index, itr.dereference = some index ∧ index.val + 1 = itr.getBranch.toNat

/-- How far the position is ahead of the bucket of the branch. -/
def drift (itr : KBucketIterator) : ℤ := itr.position - (itr.branch - 1)

theorem getRaw_eq_some_iff {itr : KBucketIterator} {index : Fin kBucketCount} :
    itr.getRaw = some index ↔ itr.position = index.val := by
  constructor
  · intro hraw
    rw [getRaw] at hraw
    split_ifs at hraw with hbounds
    obtain rfl := Option.some.inj hraw
    exact (Int.toNat_of_nonneg hbounds.1).symm
  · intro hposition
    have hbounds : 0 ≤ itr.position ∧ itr.position < kBucketCount := by
      rw [hposition]
      exact ⟨Int.natCast_nonneg _, Int.ofNat_lt.mpr index.isLt⟩
    rw [getRaw, dif_pos hbounds]
    exact congrArg some (Fin.ext (congrArg Int.toNat hposition))

/-- No branch of the table is too large for what `get_branch` returns. -/
theorem toNat_getBranch {itr : KBucketIterator} (hvalid : itr.isInvalid = false) :
    (itr.getBranch.toNat : ℤ) = itr.branch := by
  obtain ⟨hlow, hhigh⟩ := isInvalid_eq_false_iff.mp hvalid
  have hcount : kBucketCount = 160 := rfl
  have hsmall : itr.branch % 2 ^ 16 = itr.branch :=
    Int.emod_eq_of_lt (by omega) (by omega)
  rw [getBranch, UInt16.ofInt, hsmall, UInt16.toNat_ofNat']
  omega

/-- Within the table, the iterator is coherent as long as the position is not off. -/
theorem coherent_iff_drift {itr : KBucketIterator} (hvalid : itr.isInvalid = false) :
    itr.Coherent ↔ itr.drift = 0 := by
  have hbranch := toNat_getBranch hvalid
  obtain ⟨hlow, hhigh⟩ := isInvalid_eq_false_iff.mp hvalid
  rw [Coherent, drift]
  constructor
  · rintro ⟨index, hraw, hindex⟩
    have hposition := getRaw_eq_some_iff.mp hraw
    omega
  · intro hdrift
    refine ⟨⟨itr.position.toNat, by omega⟩, getRaw_eq_some_iff.mpr ?_, ?_⟩
    · exact (Int.toNat_of_nonneg (by omega)).symm
    · dsimp only
      omega

/-- A step on leaves the table behind the last branch. -/
theorem isInvalid_increment {itr : KBucketIterator} (hvalid : itr.isInvalid = false) :
    itr.increment.isInvalid = true ↔ itr.branch = kBucketCount := by
  have hbranch := isInvalid_eq_false_iff.mp hvalid
  rw [increment]
  split_ifs with hmoved
  · simp only [isInvalid_iff] at hmoved ⊢
    omega
  · simp only [isInvalid_iff] at hmoved ⊢
    omega

/-- A step back leaves it before the first. -/
theorem isInvalid_decrement {itr : KBucketIterator} (hvalid : itr.isInvalid = false) :
    itr.decrement.isInvalid = true ↔ itr.branch = 1 := by
  have hbranch := isInvalid_eq_false_iff.mp hvalid
  rw [decrement]
  split_ifs with hmoved
  · simp only [isInvalid_iff] at hmoved ⊢
    omega
  · simp only [isInvalid_iff] at hmoved ⊢
    omega

/-- `operator++` within the table moves the branch and the position. -/
theorem drift_increment {itr : KBucketIterator} (hvalid : itr.increment.isInvalid = false) :
    itr.increment.drift = itr.drift := by
  simp only [increment] at hvalid ⊢
  split_ifs at hvalid ⊢ with hmoved
  · cases hvalid
  · simp only [drift]
    omega

/-- `operator--` within the table moves them apart. -/
theorem drift_decrement {itr : KBucketIterator} (hvalid : itr.decrement.isInvalid = false) :
    itr.decrement.drift = itr.drift + 2 := by
  simp only [decrement] at hvalid ⊢
  split_ifs at hvalid ⊢ with hmoved
  · cases hvalid
  · simp only [drift]
    omega

/-- `to_begin` forgets the branch, but is short of the first bucket by two. -/
theorem drift_toBegin (itr : KBucketIterator) : itr.toBegin.drift = itr.drift - 2 := by
  simp only [toBegin, drift]
  omega

end KBucketIterator

inductive IteratorCall where
  | preIncrement
  | postIncrement
  | preDecrement
  | postDecrement
  | toBegin
  deriving DecidableEq

namespace IteratorCall

open KBucketIterator KRoutingTable

/-- What the call returns, and the iterator behind it. -/
def apply (itr : KBucketIterator) : IteratorCall → KBucketIterator × KBucketIterator
  | preIncrement => itr.preIncrement
  | postIncrement => itr.postIncrement
  | preDecrement => itr.preDecrement
  | postDecrement => itr.postDecrement
  | toBegin => (itr.toBegin, itr.toBegin)

def IsIncrement (call : IteratorCall) : Prop := call = preIncrement ∨ call = postIncrement

def IsDecrement (call : IteratorCall) : Prop := call = preDecrement ∨ call = postDecrement

instance : DecidablePred IsIncrement := fun _ => inferInstanceAs (Decidable (_ ∨ _))

instance : DecidablePred IsDecrement := fun _ => inferInstanceAs (Decidable (_ ∨ _))

/-- A call that keeps the branch within the table. -/
def step (itr : KBucketIterator) (call : IteratorCall) : Option KBucketIterator :=
  if (call.apply itr).2.isInvalid then none else some (call.apply itr).2

/-- The iterator behind calls on the one that the table gives out. -/
def run (calls : List IteratorCall) : Option KBucketIterator :=
  Runs.execute step getBeginBucketIterator calls

/-- A step over an end of the table. -/
def StepsPast (itr : KBucketIterator) (call : IteratorCall) : Prop :=
  call.IsIncrement ∧ itr.branch = kBucketCount ∨ call.IsDecrement ∧ itr.branch = 1

structure LawAt (calls : List IteratorCall) (itr : KBucketIterator) : Prop where
  coherent : itr.Coherent
  returned : ∀ first call before, calls = first ++ [call] → run first = some before →
    (call.apply before).1.Coherent
  undone : ∀ first inc dec, calls = first ++ [inc, dec] → inc.IsIncrement →
    dec.IsDecrement → run first = some itr
  begins : ∀ first, calls = first ++ [toBegin] → itr.dereference = some 0
  ends : ∀ call : IteratorCall, (call.apply itr).2.isInvalid = true ↔ call.StepsPast itr

def KeepsLaw (calls : List IteratorCall) : Prop :=
  ∀ first itr, first <+: calls → run first = some itr → LawAt first itr

/-- What a call adds to the drift. -/
def shift : IteratorCall → ℤ
  | preIncrement | postIncrement => 0
  | preDecrement | postDecrement => 2
  | toBegin => -2

theorem of_step {itr next : KBucketIterator} {call : IteratorCall}
    (hstep : step itr call = some next) :
    (call.apply itr).2 = next ∧ next.isInvalid = false := by
  rw [step] at hstep
  split_ifs at hstep with hinvalid
  obtain rfl := Option.some.inj hstep
  exact ⟨rfl, Bool.eq_false_of_not_eq_true hinvalid⟩

/-- Every call adds its share, wherever it is made. -/
theorem drift_step {itr next : KBucketIterator} {call : IteratorCall}
    (hstep : step itr call = some next) : next.drift = itr.drift + call.shift := by
  obtain ⟨rfl, hvalid⟩ := of_step hstep
  cases call with
  | preIncrement => exact (drift_increment hvalid).trans (add_zero _).symm
  | postIncrement => exact (drift_increment hvalid).trans (add_zero _).symm
  | preDecrement => exact drift_decrement hvalid
  | postDecrement => exact drift_decrement hvalid
  | toBegin => exact drift_toBegin itr

theorem shift_eq_zero_iff {call : IteratorCall} : call.shift = 0 ↔ call.IsIncrement := by
  cases call <;> decide

theorem stepsPast_of_isIncrement {itr : KBucketIterator} {call : IteratorCall}
    (hinc : call.IsIncrement) : call.StepsPast itr ↔ itr.branch = kBucketCount := by
  rcases hinc with rfl | rfl <;> simp [StepsPast, IsIncrement, IsDecrement]

theorem stepsPast_of_isDecrement {itr : KBucketIterator} {call : IteratorCall}
    (hdec : call.IsDecrement) : call.StepsPast itr ↔ itr.branch = 1 := by
  rcases hdec with rfl | rfl <;> simp [StepsPast, IsIncrement, IsDecrement]

/-- From within the table, the iterator becomes invalid only over an end of it. -/
theorem isInvalid_apply_iff {itr : KBucketIterator} (hvalid : itr.isInvalid = false)
    (call : IteratorCall) :
    (call.apply itr).2.isInvalid = true ↔ call.StepsPast itr := by
  cases call with
  | preIncrement =>
      exact (isInvalid_increment hvalid).trans (stepsPast_of_isIncrement (.inl rfl)).symm
  | postIncrement =>
      exact (isInvalid_increment hvalid).trans (stepsPast_of_isIncrement (.inr rfl)).symm
  | preDecrement =>
      exact (isInvalid_decrement hvalid).trans (stepsPast_of_isDecrement (.inl rfl)).symm
  | postDecrement =>
      exact (isInvalid_decrement hvalid).trans (stepsPast_of_isDecrement (.inr rfl)).symm
  | toBegin =>
      apply iff_of_false
      · exact Bool.false_ne_true
      · rintro (⟨hinc | hinc, -⟩ | ⟨hdec | hdec, -⟩) <;> contradiction

section Run

variable {calls : List IteratorCall} {itr : KBucketIterator}

theorem isInvalid_of_run (hrun : run calls = some itr) : itr.isInvalid = false :=
  Runs.invariant_of_step (·.isInvalid = false)
    (fun _ _ _ _ hstep => (of_step hstep).2) rfl hrun

theorem drift_of_execute {start : KBucketIterator}
    (hrun : Runs.execute step start calls = some itr) :
    itr.drift = start.drift + (calls.map shift).sum := by
  induction calls generalizing start with
  | nil =>
      cases hrun
      exact (add_zero _).symm
  | cons call calls ih =>
      obtain ⟨next, hnext, hrest⟩ := Runs.execute_cons_eq_some.mp hrun
      rw [ih hrest, drift_step hnext, List.map_cons, List.sum_cons, add_assoc]

/-- Behind a run the iterator is coherent if what the calls add cancels. -/
theorem coherent_iff_sum_shift (hrun : run calls = some itr) :
    itr.Coherent ↔ (calls.map shift).sum = 0 := by
  rw [coherent_iff_drift (isInvalid_of_run hrun), drift_of_execute hrun]
  exact Eq.congr_left (zero_add _)

theorem sum_shift (calls : List IteratorCall) :
    (calls.map shift).sum =
      2 * (calls.countP (IsDecrement ·) : ℤ) - 2 * (calls.count toBegin : ℤ) := by
  induction calls with
  | nil => rfl
  | cons call calls ih =>
      rw [List.map_cons, List.sum_cons, ih]
      cases call <;> simp [shift, IsDecrement] <;> omega

/-- Each `to_begin` makes up for one `operator--`: as far as the numbers alone go, the
iterator is coherent behind as many of the one as of the other. -/
theorem coherent_iff_balanced (hrun : run calls = some itr) :
    itr.Coherent ↔ calls.countP (IsDecrement ·) = calls.count toBegin := by
  rw [coherent_iff_sum_shift hrun, sum_shift]
  omega

/-- A sequence that keeps the branch within the table does so from its start on. -/
theorem exists_run_before {first : List IteratorCall} (hstarts : first <+: calls)
    (hkept : (run calls).isSome = true) : ∃ before, run first = some before := by
  obtain ⟨rest, rfl⟩ := hstarts
  obtain ⟨last, hlast⟩ := Option.isSome_iff_exists.mp hkept
  obtain ⟨before, hbefore, -⟩ := Runs.execute_append_eq_some.mp hlast
  exact ⟨before, hbefore⟩

theorem coherent_of_increments (hcalls : ∀ call ∈ calls, call.IsIncrement)
    (hrun : run calls = some itr) : itr.Coherent := by
  rw [coherent_iff_sum_shift hrun]
  apply List.sum_eq_zero
  rintro _ hshift
  obtain ⟨call, hcall, rfl⟩ := List.mem_map.mp hshift
  exact shift_eq_zero_iff.mpr (hcalls call hcall)

/-- Steps on alone meet the law. -/
theorem lawAt_of_increments (hcalls : ∀ call ∈ calls, call.IsIncrement)
    (hrun : run calls = some itr) : LawAt calls itr where
  coherent := coherent_of_increments hcalls hrun
  returned := by
    rintro first call before rfl hbefore
    have hfirst : before.Coherent :=
      coherent_of_increments (fun other hother => hcalls other (List.mem_append_left _ hother))
        hbefore
    obtain ⟨other, hother, hlast⟩ := Runs.execute_append_eq_some.mp hrun
    obtain rfl := Option.some.inj (hbefore.symm.trans hother)
    obtain ⟨next, hnext, hnil⟩ := Runs.execute_cons_eq_some.mp hlast
    cases hnil
    have hitr := coherent_of_increments hcalls hrun
    rw [← (of_step hnext).1] at hitr
    rcases hcalls call (by simp) with rfl | rfl
    · exact hitr
    · exact hfirst
  undone := by
    rintro first inc dec rfl - hdec
    have hinc : dec.IsIncrement := hcalls dec (by simp)
    rcases hdec with rfl | rfl <;> cases hinc <;> contradiction
  begins := by
    rintro first rfl
    have hinc : IsIncrement toBegin := hcalls toBegin (by simp)
    cases hinc <;> contradiction
  ends := isInvalid_apply_iff (isInvalid_of_run hrun)

/-- Where the branch is kept within the table, the law holds at every point of exactly the
sequences without `operator--` and `to_begin`. -/
theorem keepsLaw_iff (hkept : (run calls).isSome = true) :
    KeepsLaw calls ↔ ∀ call ∈ calls, call.IsIncrement := by
  constructor
  · intro hlaw call hcall
    obtain ⟨first, rest, rfl⟩ := List.append_of_mem hcall
    have hfirst : first <+: first ++ call :: rest := List.prefix_append _ _
    have hthrough : first ++ [call] <+: first ++ call :: rest := ⟨rest, by simp⟩
    obtain ⟨before, hbefore⟩ := exists_run_before hfirst hkept
    obtain ⟨next, hnext⟩ := exists_run_before hthrough hkept
    have hcoherent := (hlaw _ before hfirst hbefore).coherent
    have hmoved := (hlaw _ next hthrough hnext).coherent
    rw [coherent_iff_sum_shift hbefore] at hcoherent
    rw [coherent_iff_sum_shift hnext, List.map_append, List.sum_append, hcoherent] at hmoved
    simpa [shift_eq_zero_iff] using hmoved
  · intro hcalls first itr hstarts hrun
    exact lawAt_of_increments (fun call hcall => hcalls call (hstarts.subset hcall)) hrun

theorem keepsLaw_twoIncrements : KeepsLaw [preIncrement, postIncrement] :=
  (keepsLaw_iff rfl).mpr (by decide)

end Run

/-- A step on and back leads to the third bucket with the branch of the first, and `to_begin`
on the first bucket to a position before the table. -/
theorem not_keepsLaw_backwards :
    (run [postIncrement, postDecrement] = some ⟨2, 1⟩ ∧
      ¬ KeepsLaw [postIncrement, postDecrement]) ∧
      run [toBegin] = some ⟨-2, 1⟩ ∧ ¬ KeepsLaw [toBegin] := by
  refine ⟨⟨rfl, ?_⟩, rfl, ?_⟩
  · intro hlaw
    have hcoherent := (hlaw _ ⟨2, 1⟩ List.prefix_rfl rfl).coherent
    exact absurd ((coherent_iff_drift rfl).mp hcoherent) (by decide)
  · intro hlaw
    have hcoherent := (hlaw _ ⟨-2, 1⟩ List.prefix_rfl rfl).coherent
    exact absurd ((coherent_iff_drift rfl).mp hcoherent) (by decide)

end IteratorCall

end SsP2p.Kademlia

import Mathlib.Data.Nat.Bitwise
import Mathlib.Data.Nat.Digits.Defs
import Mathlib.Data.List.TakeWhile

/-!
# Bit order in byte strings

A byte string is a number in base 256, the first byte in front.  The bits of its
bytes can be read in any order within a byte; the zeros before the first set bit
are then counted from the first byte that is not zero.  Only the order from the
highest bit agrees with the size of the number.
-/

namespace SsP2p.BitOrder

/-- The bits of a byte, the one numbered `index position` at each position. -/
def readByte (index : ℕ → ℕ) (byte : UInt8) : List Bool :=
  (List.range 8).map fun position => byte.toNat.testBit (index position)

/-- The bits of all bytes, read in the same order within each. -/
def readBits (index : ℕ → ℕ) (bytes : List UInt8) : List Bool :=
  (List.range (8 * bytes.length)).map fun position =>
    (bytes.getD (position / 8) 0).toNat.testBit (index (position % 8))

/-- The zeros in front of the first set bit. -/
def zeros (bits : List Bool) : ℕ :=
  (bits.takeWhile fun bit => !bit).length

/-- The first byte that is not zero, with its position. -/
def firstNonzero : List UInt8 → Option (ℕ × UInt8)
  | [] => none
  | byte :: bytes =>
      if byte = 0 then (firstNonzero bytes).map fun found => (found.1 + 1, found.2)
      else some (0, byte)

def value (bytes : List UInt8) : ℕ :=
  Nat.ofDigits 256 (bytes.map UInt8.toNat).reverse

/-! ## The first set bit -/

theorem readBits_cons (index : ℕ → ℕ) (byte : UInt8) (bytes : List UInt8) :
    readBits index (byte :: bytes) = readByte index byte ++ readBits index bytes := by
  have hlength : 8 * (byte :: bytes).length = 8 + 8 * bytes.length := by
    rw [List.length_cons]
    omega
  rw [readBits, hlength, List.range_add, List.map_append, List.map_map]
  congr 1
  apply List.map_congr_left
  intro position _
  simp only [Function.comp_apply, Nat.add_mod_left, Nat.add_div_left position
    (Nat.zero_lt_succ 7)]
  rfl

theorem zeros_lt_length {bits : List Bool} (hset : true ∈ bits) :
    zeros bits < bits.length := by
  apply Nat.lt_of_le_of_ne (List.takeWhile_sublist _).length_le
  intro hall
  have heq := (List.takeWhile_sublist _).eq_of_length hall
  exact Bool.false_ne_true (List.takeWhile_eq_self_iff.mp heq true hset)

theorem zeros_append_of_mem {bits : List Bool} (hset : true ∈ bits) (rest : List Bool) :
    zeros (bits ++ rest) = zeros bits := by
  have hstops : ¬ (bits.takeWhile fun bit => !bit).length = bits.length :=
    (zeros_lt_length hset).ne
  rw [zeros, zeros, List.takeWhile_append, if_neg hstops]

theorem zeros_append_of_notMem {bits : List Bool} (hunset : true ∉ bits)
    (rest : List Bool) : zeros (bits ++ rest) = bits.length + zeros rest := by
  have hall : ∀ bit ∈ bits, (!bit) = true := by
    intro bit hbit
    cases bit with
    | false => rfl
    | true => exact absurd hbit hunset
  rw [zeros, zeros, List.takeWhile_append_of_pos hall, List.length_append]

section Order

variable {index : ℕ → ℕ} (hindex : ∀ bit < 8, ∃ position < 8, index position = bit)

include hindex

/-- Every order finds a set bit in a byte that is not zero. -/
theorem mem_readByte_iff {byte : UInt8} : true ∈ readByte index byte ↔ byte ≠ 0 := by
  rw [readByte, List.mem_map]
  constructor
  · intro hset hzero
    obtain ⟨position, -, hbit⟩ := hset
    rw [hzero, UInt8.toNat_zero, Nat.zero_testBit] at hbit
    exact Bool.false_ne_true hbit
  · intro hne
    have hpositive : byte.toNat ≠ 0 := fun hzero => hne (UInt8.toNat_inj.mp hzero)
    obtain ⟨bit, hbit⟩ := Nat.exists_testBit_of_ne_zero hpositive
    have hsmall : bit < 8 := by
      by_contra hlarge
      have hlt : byte.toNat < 2 ^ bit :=
        byte.toNat_lt.trans_le (Nat.pow_le_pow_right (Nat.zero_lt_succ 1)
          (Nat.le_of_not_lt hlarge))
      rw [Nat.testBit_lt_two_pow hlt] at hbit
      exact Bool.false_ne_true hbit
    obtain ⟨position, hposition, rfl⟩ := hindex bit hsmall
    exact ⟨position, List.mem_range.mpr hposition, hbit⟩

theorem zeros_readByte_lt {byte : UInt8} (hne : byte ≠ 0) :
    zeros (readByte index byte) < 8 := by
  have hlt := zeros_lt_length ((mem_readByte_iff hindex).mpr hne)
  rwa [readByte, List.length_map, List.length_range] at hlt

/-- The zeros are those of the bytes before the first one that is not zero, and the
ones in front of its first set bit. -/
theorem zeros_readBits (bytes : List UInt8) :
    zeros (readBits index bytes) =
      match firstNonzero bytes with
      | none => 8 * bytes.length
      | some found => 8 * found.1 + zeros (readByte index found.2) := by
  induction bytes with
  | nil => rfl
  | cons byte bytes ih =>
      rw [readBits_cons, firstNonzero]
      by_cases hzero : byte = 0
      · have hunset : true ∉ readByte index byte := fun hset =>
          (mem_readByte_iff hindex).mp hset hzero
        have hlength : (readByte index byte).length = 8 := by
          rw [readByte, List.length_map, List.length_range]
        rw [zeros_append_of_notMem hunset, hlength, ih, if_pos hzero]
        cases hfound : firstNonzero bytes with
        | none =>
            rw [Option.map_none, List.length_cons, Nat.mul_succ, Nat.add_comm]
        | some found =>
            rw [Option.map_some]
            dsimp only
            rw [Nat.mul_succ, Nat.add_right_comm, Nat.add_comm 8, Nat.add_right_comm]
      · rw [zeros_append_of_mem ((mem_readByte_iff hindex).mpr hzero), if_neg hzero]
        exact (Nat.zero_add _).symm

theorem zeros_readBits_of_none {bytes : List UInt8} (hnone : firstNonzero bytes = none) :
    zeros (readBits index bytes) = 8 * bytes.length := by
  rw [zeros_readBits hindex, hnone]

theorem zeros_readBits_of_some {bytes : List UInt8} {position : ℕ} {byte : UInt8}
    (hfirst : firstNonzero bytes = some (position, byte)) :
    zeros (readBits index bytes) = 8 * position + zeros (readByte index byte) := by
  rw [zeros_readBits hindex, hfirst]

end Order

/-! ## The number -/

theorem value_cons (byte : UInt8) (bytes : List UInt8) :
    value (byte :: bytes) = byte.toNat * 256 ^ bytes.length + value bytes := by
  rw [value, List.map_cons, List.reverse_cons, Nat.ofDigits_append, Nat.ofDigits_singleton,
    List.length_reverse, List.length_map, value, Nat.add_comm, Nat.mul_comm]

theorem value_lt (bytes : List UInt8) : value bytes < 256 ^ bytes.length := by
  have hdigits : ∀ digit ∈ (bytes.map UInt8.toNat).reverse, digit < 256 := by
    intro digit hdigit
    obtain ⟨byte, -, rfl⟩ := List.mem_map.mp (List.mem_reverse.mp hdigit)
    exact byte.toNat_lt
  have hlt := Nat.ofDigits_lt_base_pow_length (by decide) hdigits
  rwa [List.length_reverse, List.length_map] at hlt

/-- The exclusive or of two numbers in base `2 ^ width`, digit by digit. -/
theorem mul_add_xor {width left right leftRest rightRest : ℕ}
    (hleft : leftRest < 2 ^ width) (hright : rightRest < 2 ^ width) :
    (left * 2 ^ width + leftRest) ^^^ (right * 2 ^ width + rightRest) =
      (left ^^^ right) * 2 ^ width + (leftRest ^^^ rightRest) := by
  apply Nat.eq_of_testBit_eq
  intro bit
  rw [Nat.mul_comm, Nat.mul_comm right, Nat.mul_comm (left ^^^ right), Nat.testBit_xor,
    Nat.testBit_two_pow_mul_add left hleft, Nat.testBit_two_pow_mul_add right hright,
    Nat.testBit_two_pow_mul_add _ (Nat.xor_lt_two_pow hleft hright)]
  split_ifs
  · rw [Nat.testBit_xor]
  · rw [Nat.testBit_xor]

theorem value_zipWith_xor {left right : List UInt8} (hlength : left.length = right.length) :
    value (List.zipWith (· ^^^ ·) left right) = value left ^^^ value right := by
  induction left generalizing right with
  | nil =>
      rw [List.length_nil, eq_comm, List.length_eq_zero_iff] at hlength
      rw [hlength]
      rfl
  | cons byte left ih =>
      cases right with
      | nil => cases hlength
      | cons other right =>
          have hrest : left.length = right.length := Nat.succ.inj hlength
          have hbase : 256 ^ right.length = 2 ^ (8 * right.length) := (Nat.pow_mul 2 8 _).symm
          have hleft := value_lt left
          have hright := value_lt right
          rw [hrest, hbase] at hleft
          rw [hbase] at hright
          rw [List.zipWith_cons_cons, value_cons, value_cons, value_cons, ih hrest,
            List.length_zipWith, hrest, Nat.min_self, hbase, mul_add_xor hleft hright,
            UInt8.toNat_xor]

/-- The first byte that is not zero bounds the number from both sides. -/
theorem value_bounds {bytes : List UInt8} {position : ℕ} {byte : UInt8}
    (hfirst : firstNonzero bytes = some (position, byte)) :
    byte ≠ 0 ∧ position < bytes.length ∧
      byte.toNat * 256 ^ (bytes.length - 1 - position) ≤ value bytes ∧
      value bytes < (byte.toNat + 1) * 256 ^ (bytes.length - 1 - position) := by
  induction bytes generalizing position with
  | nil => cases hfirst
  | cons head bytes ih =>
      rw [firstNonzero] at hfirst
      rw [value_cons]
      by_cases hzero : head = 0
      · rw [if_pos hzero] at hfirst
        obtain ⟨⟨previous, other⟩, hfound, heq⟩ := Option.map_eq_some_iff.mp hfirst
        obtain ⟨rfl, rfl⟩ := Prod.mk.inj heq
        obtain ⟨hne, hposition, hlower, hupper⟩ := ih hfound
        have hexponent : (head :: bytes).length - 1 - (previous + 1) =
            bytes.length - 1 - previous := by
          rw [List.length_cons]
          omega
        rw [hexponent, hzero, UInt8.toNat_zero, Nat.zero_mul, Nat.zero_add]
        exact ⟨hne, Nat.succ_lt_succ hposition, hlower, hupper⟩
      · rw [if_neg hzero] at hfirst
        obtain ⟨rfl, rfl⟩ := Prod.mk.inj (Option.some.inj hfirst)
        have hlt := value_lt bytes
        rw [List.length_cons, Nat.add_sub_cancel, Nat.sub_zero, Nat.add_mul, Nat.one_mul]
        exact ⟨hzero, Nat.succ_pos _, Nat.le_add_right _ _, Nat.add_lt_add_left hlt _⟩

theorem firstNonzero_eq_none_iff {bytes : List UInt8} :
    firstNonzero bytes = none ↔ ∀ byte ∈ bytes, byte = 0 := by
  induction bytes with
  | nil => simp [firstNonzero]
  | cons head bytes ih =>
      rw [firstNonzero, List.forall_mem_cons]
      by_cases hzero : head = 0
      · rw [if_pos hzero, Option.map_eq_none_iff, ih]
        exact (and_iff_right hzero).symm
      · rw [if_neg hzero]
        constructor
        · intro hnone
          cases hnone
        · intro hboth
          exact absurd hboth.1 hzero

theorem value_of_firstNonzero_eq_none {bytes : List UInt8}
    (hnone : firstNonzero bytes = none) : value bytes = 0 := by
  induction bytes with
  | nil => rfl
  | cons head bytes ih =>
      have hzero := firstNonzero_eq_none_iff.mp hnone
      rw [List.forall_mem_cons] at hzero
      rw [value_cons, hzero.1, ih (firstNonzero_eq_none_iff.mpr hzero.2), UInt8.toNat_zero,
        Nat.zero_mul]

theorem value_pos_of_firstNonzero {bytes : List UInt8} {position : ℕ} {byte : UInt8}
    (hfirst : firstNonzero bytes = some (position, byte)) : 0 < value bytes := by
  obtain ⟨hne, -, hlower, -⟩ := value_bounds hfirst
  have hpositive : 0 < byte.toNat :=
    Nat.pos_of_ne_zero fun hzero => hne (UInt8.toNat_inj.mp hzero)
  exact (Nat.mul_pos hpositive (Nat.pow_pos (Nat.zero_lt_succ 255))).trans_le hlower

section Compare

variable {left right : List UInt8} (hlength : left.length = right.length)
  {leftPosition rightPosition : ℕ} {leftByte rightByte : UInt8}
  (hleft : firstNonzero left = some (leftPosition, leftByte))
  (hright : firstNonzero right = some (rightPosition, rightByte))

include hlength hleft hright

/-- The number with more zero bytes in front is smaller. -/
theorem value_lt_of_position_lt (hlt : rightPosition < leftPosition) :
    value left < value right := by
  obtain ⟨-, hinside, -, hupper⟩ := value_bounds hleft
  obtain ⟨hne, -, hlower, -⟩ := value_bounds hright
  rw [hlength] at hinside hupper
  have hpositive : 0 < rightByte.toNat :=
    Nat.pos_of_ne_zero fun hzero => hne (UInt8.toNat_inj.mp hzero)
  calc value left
      < (leftByte.toNat + 1) * 256 ^ (right.length - 1 - leftPosition) := hupper
    _ ≤ 256 * 256 ^ (right.length - 1 - leftPosition) :=
        Nat.mul_le_mul_right _ leftByte.toNat_lt
    _ = 256 ^ (right.length - 1 - leftPosition + 1) := (Nat.pow_succ').symm
    _ ≤ 256 ^ (right.length - 1 - rightPosition) :=
        Nat.pow_le_pow_right (by decide) (by omega)
    _ ≤ rightByte.toNat * 256 ^ (right.length - 1 - rightPosition) :=
        Nat.le_mul_of_pos_left _ hpositive
    _ ≤ value right := hlower

/-- With as many zero bytes in front, the first other byte decides. -/
theorem value_lt_iff_of_position_eq (heq : leftPosition = rightPosition)
    (hne : leftByte ≠ rightByte) : value left < value right ↔ leftByte < rightByte := by
  obtain ⟨-, -, hleftLower, hleftUpper⟩ := value_bounds hleft
  obtain ⟨-, -, hrightLower, hrightUpper⟩ := value_bounds hright
  rw [hlength, heq] at hleftLower hleftUpper
  have hneNat : leftByte.toNat ≠ rightByte.toNat := fun hsame => hne (UInt8.toNat_inj.mp hsame)
  rw [UInt8.lt_iff_toNat_lt]
  constructor
  · intro hlt
    have hscaled := (hleftLower.trans_lt hlt).trans hrightUpper
    have hle := Nat.lt_of_mul_lt_mul_right hscaled
    omega
  · intro hlt
    exact hleftUpper.trans_le ((Nat.mul_le_mul_right _ hlt).trans hrightLower)

end Compare

end SsP2p.BitOrder

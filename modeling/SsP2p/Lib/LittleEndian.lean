import Mathlib.Algebra.Order.Ring.Int
import Mathlib.Data.Int.Notation
import Mathlib.Data.Nat.Notation
import Mathlib.Tactic.Ring

/-!
# Fixed-width little-endian numbers

A number of `width` bytes with its lowest byte at the front, and integers in
two's complement over it.  Reading back what was written gives the number modulo
`256 ^ width`, hence an integer that fits is read back as it is.
-/

namespace SsP2p.LittleEndian

/-- The lowest `width` bytes of a number. -/
def encode : ℕ → ℕ → List UInt8
  | 0, _ => []
  | width + 1, value => UInt8.ofNat value :: encode width (value / 256)

def decode : List UInt8 → ℕ
  | [] => 0
  | byte :: bytes => byte.toNat + 256 * decode bytes

@[simp]
theorem length_encode (width value : ℕ) : (encode width value).length = width := by
  induction width generalizing value with
  | zero => rfl
  | succ width ih => rw [encode, List.length_cons, ih]

@[simp]
theorem decode_encode (width value : ℕ) :
    decode (encode width value) = value % 256 ^ width := by
  induction width generalizing value with
  | zero => simp [encode, decode, Nat.mod_one]
  | succ width ih =>
      rw [encode, decode, ih, pow_succ', Nat.mod_mul, UInt8.toNat_ofNat']

/-- The bytes of an integer in two's complement. -/
def encodeInt (width : ℕ) (value : ℤ) : List UInt8 :=
  encode width (value % 256 ^ width).toNat

def toInt (width value : ℕ) : ℤ :=
  (value : ℤ).bmod (256 ^ width)

def Fits (width : ℕ) (value : ℤ) : Prop :=
  -(256 ^ width) ≤ value * 2 ∧ value * 2 < 256 ^ width

instance (width : ℕ) (value : ℤ) : Decidable (Fits width value) :=
  inferInstanceAs (Decidable (_ ∧ _))

@[simp]
theorem length_encodeInt (width : ℕ) (value : ℤ) :
    (encodeInt width value).length = width :=
  length_encode width _

/-- An integer that fits is read back. -/
theorem toInt_decode_encodeInt {width : ℕ} {value : ℤ} (hfits : Fits width value) :
    toInt width (decode (encodeInt width value)) = value := by
  have hcast : (256 ^ width : ℤ) = ((256 ^ width : ℕ) : ℤ) := by push_cast; rfl
  have hpos : (0 : ℤ) < 256 ^ width := pow_pos (by decide) width
  have hresidue := Int.emod_nonneg value hpos.ne'
  have hlt : (value % 256 ^ width).toNat < 256 ^ width := by
    have hbound := Int.emod_lt_of_pos value hpos
    omega
  rw [encodeInt, decode_encode, Nat.mod_eq_of_lt hlt, toInt, Int.toNat_of_nonneg hresidue,
    hcast, Int.emod_bmod]
  rw [Fits, hcast] at hfits
  exact Int.bmod_eq_of_le_mul_two hfits.1 hfits.2

/-- What is read fits. -/
theorem fits_toInt (width value : ℕ) (hwidth : 0 < width) : Fits width (toInt width value) := by
  have hpos : 0 < 256 ^ width := pow_pos (by decide) width
  have hlow := Int.le_bmod (x := value) hpos
  have hhigh := Int.bmod_lt (x := value) hpos
  obtain ⟨half, hhalf⟩ : ∃ half, 256 ^ width = 2 * half := by
    obtain ⟨rest, rfl⟩ := Nat.exists_eq_succ_of_ne_zero hwidth.ne'
    exact ⟨128 * 256 ^ rest, by rw [pow_succ']; ring⟩
  have hcast : (256 ^ width : ℤ) = ((256 ^ width : ℕ) : ℤ) := by push_cast; rfl
  rw [Fits, toInt, hcast]
  omega

end SsP2p.LittleEndian

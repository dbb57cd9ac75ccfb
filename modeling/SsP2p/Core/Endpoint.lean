import Std.Data.TreeMap
import Mathlib.Algebra.Group.Nat.Defs
import Mathlib.Data.Nat.Basic

/-!
# UDP endpoints

`ip::address` and `ip::udp::endpoint` as Boost.Asio compares them: IPv4 before
IPv6, then the address as a big-endian number, then the scope, then the port.
The order is the one that `std::map` uses for endpoints as keys.
-/

namespace SsP2p

inductive Address where
  | v4 (bits : BitVec 32)
  | v6 (bits : BitVec 128) (scopeId : BitVec 32)
  deriving DecidableEq, Repr

structure Endpoint where
  address : Address
  port : UInt16
  deriving DecidableEq, Repr

namespace Address

/-- `is_loopback`: `127.0.0.0/8`, or `::1` whatever its scope. -/
def isLoopback : Address → Bool
  | v4 bits => bits &&& 0xFF000000#32 == 0x7F000000#32
  | v6 bits _ => bits == 1#128

/-- The position of an address in the order of `ip::address::operator<`. -/
def sortKey : Address → ℕ
  | v4 bits => bits.toNat
  | v6 bits scopeId => 2 ^ 32 + (bits.toNat * 2 ^ 32 + scopeId.toNat)

theorem sortKey_injective : Function.Injective sortKey := by
  intro left right heq
  cases left with
  | v4 leftBits =>
      cases right with
      | v4 rightBits =>
          simp only [sortKey] at heq
          rw [BitVec.eq_of_toNat_eq heq]
      | v6 rightBits rightScope =>
          simp only [sortKey] at heq
          have hlt := leftBits.isLt
          omega
  | v6 leftBits leftScope =>
      cases right with
      | v4 rightBits =>
          simp only [sortKey] at heq
          have hlt := rightBits.isLt
          omega
      | v6 rightBits rightScope =>
          simp only [sortKey] at heq
          have hleft := leftScope.isLt
          have hright := rightScope.isLt
          have hbits : leftBits.toNat = rightBits.toNat := by omega
          have hscope : leftScope.toNat = rightScope.toNat := by omega
          rw [BitVec.eq_of_toNat_eq hbits, BitVec.eq_of_toNat_eq hscope]

end Address

namespace Endpoint

/-- The position of an endpoint in the order of `ip::udp::endpoint::operator<`. -/
def sortKey (ep : Endpoint) : ℕ :=
  ep.address.sortKey * 2 ^ 16 + ep.port.toNat

theorem sortKey_injective : Function.Injective sortKey := by
  rintro ⟨leftAddress, leftPort⟩ ⟨rightAddress, rightPort⟩ heq
  simp only [sortKey] at heq
  have hleft := leftPort.toNat_lt
  have hright := rightPort.toNat_lt
  have hport : leftPort.toNat = rightPort.toNat := by omega
  have haddress : leftAddress.sortKey = rightAddress.sortKey := by omega
  rw [Address.sortKey_injective haddress, UInt16.toNat_inj.mp hport]

instance : Ord Endpoint := ⟨compareOn sortKey⟩

instance : Std.TransCmp (compare : Endpoint → Endpoint → Ordering) :=
  inferInstanceAs (Std.TransCmp (compareOn sortKey))

instance : Std.LawfulEqCmp (compare : Endpoint → Endpoint → Ordering) where
  eq_of_compare {left right} heq := by
    have hkey : compareOn sortKey left right = .eq := heq
    rw [compareOn] at hkey
    exact sortKey_injective (Std.LawfulEqCmp.eq_of_compare hkey)

/-- `ip::udp::endpoint( ip::address::from_string("0.0.0.0"), 0 )`. -/
def unspecified : Endpoint := ⟨.v4 0, 0⟩

end Endpoint

end SsP2p

import SsP2p.Core.EndpointParser

/-!
# A host platform with both families

The host platform with the texts of IPv6 addresses: eight groups of four hexadecimal
digits, and the scope behind a percent sign when there is one.  Boost drops leading zeros
and a run of zero groups; an address that has neither has the same text here.
-/

namespace SsP2p

/-- The groups of an IPv6 address from the front. -/
def groups (bits : BitVec 128) : List (List Char) :=
  [hexDigits 4 (bits.toNat / 16 ^ 28), hexDigits 4 (bits.toNat / 16 ^ 24),
    hexDigits 4 (bits.toNat / 16 ^ 20), hexDigits 4 (bits.toNat / 16 ^ 16),
    hexDigits 4 (bits.toNat / 16 ^ 12), hexDigits 4 (bits.toNat / 16 ^ 8),
    hexDigits 4 (bits.toNat / 16 ^ 4), hexDigits 4 bits.toNat]

def scopeText (scopeId : BitVec 32) : List Char :=
  if scopeId = 0 then [] else '%' :: Nat.toDigits 10 scopeId.toNat

def ipv6Text (bits : BitVec 128) (scopeId : BitVec 32) : String :=
  String.ofList ([':'].intercalate (groups bits) ++ scopeText scopeId)

def ipv6OfText (text : String) : Option (BitVec 128 × BitVec 32) :=
  let bits := BitVec.ofNat 128
    (ofHexDigits ((text.toList.takeWhile (· ≠ '%')).filter (· ≠ ':')))
  let scopeId := BitVec.ofNat 32
    (Nat.ofDigitChars 10 (text.toList.dropWhile (· ≠ '%')).tail 0)
  if ipv6Text bits scopeId = text then some (bits, scopeId) else none

theorem ipv6OfText_ipv6Text (bits : BitVec 128) (scopeId : BitVec 32) :
    ipv6OfText (ipv6Text bits scopeId) = some (bits, scopeId) := by
  have hcolon : ∀ d : Fin 16, Nat.digitChar d ≠ ':' := by decide
  have hpercent : ∀ d : Fin 16, Nat.digitChar d ≠ '%' := by decide
  have hfront : ∀ c ∈ [':'].intercalate (groups bits), decide (c ≠ '%') = true := by
    intro c hc
    rw [decide_eq_true_eq]
    rintro rfl
    simp [groups, List.intercalate_cons_cons, notMem_hexDigits hpercent] at hc
  have hbits : ((ipv6Text bits scopeId).toList.takeWhile (· ≠ '%')).filter (· ≠ ':') =
      hexDigits 32 bits.toNat := by
    have hnone : (scopeText scopeId).takeWhile (· ≠ '%') = [] := by
      rw [scopeText]
      split <;> simp
    rw [ipv6Text, String.toList_ofList, List.takeWhile_append_of_pos hfront, hnone,
      List.append_nil, hexDigits_add 28 4, hexDigits_add 24 4, hexDigits_add 20 4,
      hexDigits_add 16 4, hexDigits_add 12 4, hexDigits_add 8 4, hexDigits_add 4 4]
    simp only [groups, List.intercalate_cons_cons, List.intercalate_singleton,
      List.filter_append, filter_hexDigits hcolon, Nat.div_div_eq_div_mul]
    simp
  have hscope : Nat.ofDigitChars 10
      ((ipv6Text bits scopeId).toList.dropWhile (· ≠ '%')).tail 0 = scopeId.toNat := by
    rw [ipv6Text, String.toList_ofList, List.dropWhile_append_of_pos hfront, scopeText]
    split
    next hzero =>
      rw [hzero]
      rfl
    next =>
      rw [List.dropWhile_cons_of_neg (by simp), List.tail_cons, Nat.ofDigitChars_ten_toDigits]
  have hlt : bits.toNat < 16 ^ 32 := bits.isLt
  simp only [ipv6OfText, hbits, hscope, ofHexDigits_hexDigits, Nat.mod_eq_of_lt hlt,
    BitVec.ofNat_toNat, BitVec.setWidth_eq, if_true]

theorem colon_mem_ipv6Text (bits : BitVec 128) (scopeId : BitVec 32) :
    ':' ∈ (ipv6Text bits scopeId).toList := by
  rw [ipv6Text, String.toList_ofList, groups]
  simp [List.intercalate_cons_cons]

/-- The host platform with the addresses of both families. -/
def dualStackPlatform (documents : List (List UInt8 × List (String × Json))) : Platform where
  __ := hostPlatform documents
  addressToString
    | .v4 bits => ipv4Text bits
    | .v6 bits scopeId => ipv6Text bits scopeId
  addressFromString text :=
    if ':' ∈ text.toList then (ipv6OfText text).map fun read => .v6 read.1 read.2
    else (ipv4OfText text).map .v4

section DualStack

variable (documents : List (List UInt8 × List (String × Json)))

theorem dualStackPlatform_addressFromString (text : String) :
    (dualStackPlatform documents).addressFromString text =
      if ':' ∈ text.toList then (ipv6OfText text).map fun read => .v6 read.1 read.2
      else (ipv4OfText text).map .v4 := rfl

/-- The addresses of both families are read back. -/
theorem readsAddresses_dualStackPlatform : (dualStackPlatform documents).ReadsAddresses where
  v4 text bits hfrom := by
    rw [dualStackPlatform_addressFromString] at hfrom
    intro hcolon
    rw [if_pos hcolon, Option.map_eq_some_iff] at hfrom
    obtain ⟨read, -, heq⟩ := hfrom
    cases heq
  v6 text bits scopeId hfrom := by
    rw [dualStackPlatform_addressFromString] at hfrom
    by_contra hcolon
    rw [if_neg hcolon, Option.map_eq_some_iff] at hfrom
    obtain ⟨read, -, heq⟩ := hfrom
    cases heq
  reads address := by
    cases address with
    | v4 bits =>
        have htext : (dualStackPlatform documents).addressToString (.v4 bits) =
            ipv4Text bits := rfl
        rw [htext, dualStackPlatform_addressFromString, if_neg (colon_notMem_ipv4Text bits),
          ipv4OfText_ipv4Text, Option.map_some]
    | v6 bits scopeId =>
        have htext : (dualStackPlatform documents).addressToString (.v6 bits scopeId) =
            ipv6Text bits scopeId := rfl
        rw [htext, dualStackPlatform_addressFromString,
          if_pos (colon_mem_ipv6Text bits scopeId), ipv6OfText_ipv6Text, Option.map_some]

end DualStack

end SsP2p

import SsP2p.Core.HostPlatform
import SsP2p.Lib.Fallible
import Mathlib.Data.List.TakeWhile

/-!
# The texts of IPv4 endpoints

Endpoints travel in messages as texts.  For IPv4 endpoints the text of
`endpoint_to_str` is read back by `str_to_endpoint`, given what Boost promises for
addresses and ids.
-/

namespace SsP2p

def Endpoint.IsV4 (ep : Endpoint) : Prop :=
  ∃ bits, ep.address = .v4 bits

/-- What Boost promises for the texts of IPv4 addresses and of ids: they are read back,
and dotted decimal has no colon. -/
structure Platform.ReadsBack (platform : Platform) : Prop where
  address : ∀ bits, platform.addressFromString
    (platform.addressToString (.v4 bits)) = some (.v4 bits)
  noColon : ∀ bits, ':' ∉ (platform.addressToString (.v4 bits)).toList
  uuid : ∀ id, platform.uuidFromString (platform.uuidToString id) = some id

/-- A digit starts no blanks and is no sign. -/
theorem ne_of_isDigit {c : Char} (hdigit : c.isDigit = true) :
    isSpace c = false ∧ c ≠ '-' ∧ c ≠ '+' := by
  have hcode : 48 ≤ c.toNat := by
    simp only [Char.isDigit, Bool.and_eq_true, decide_eq_true_eq] at hdigit
    exact hdigit.1
  refine ⟨?_, ?_, ?_⟩
  · have hblank : c ≠ ' ' := by
      rintro rfl
      revert hcode
      decide
    simp only [isSpace, hblank, decide_false, Bool.false_or]
    simp
    omega
  · rintro rfl
    revert hcode
    decide
  · rintro rfl
    revert hcode
    decide

/-- `stoi` reads back the decimal text of a port. -/
theorem stoi_repr (port : UInt16) :
    stoi port.toNat.repr.toList = .ok (port.toNat : ℤ) := by
  rw [Nat.toList_repr]
  have hdigits : ∀ c ∈ Nat.toDigits 10 port.toNat, c.isDigit = true :=
    fun c hc => Nat.isDigit_of_mem_toDigits (by decide) (by decide) hc
  have hvalue : Nat.ofDigitChars 10 (Nat.toDigits 10 port.toNat) 0 = port.toNat :=
    Nat.ofDigitChars_ten_toDigits
  have hlt := port.toNat_lt
  cases hchars : Nat.toDigits 10 port.toNat with
  | nil => exact absurd hchars Nat.toDigits_ne_nil
  | cons c rest =>
      rw [hchars] at hdigits hvalue
      obtain ⟨hspace, hminus, hplus⟩ := ne_of_isDigit (hdigits c List.mem_cons_self)
      have htrimmed : (c :: rest).dropWhile isSpace = c :: rest := by
        simp [hspace]
      have htaken : (c :: rest).takeWhile Char.isDigit = c :: rest :=
        List.takeWhile_eq_self_iff.mpr hdigits
      simp only [stoi, htrimmed, List.head?_cons, Option.some.injEq, hminus, hplus,
        decide_false, Bool.or_self, Bool.false_eq_true, if_false, htaken, hvalue]
      simp
      omega

theorem ofInt_toNat (port : UInt16) : UInt16.ofInt (port.toNat : ℤ) = port := by
  have hlt : (port.toNat : ℤ) < 2 ^ 16 := by exact_mod_cast port.toNat_lt
  rw [UInt16.ofInt, Int.emod_eq_of_lt (Int.natCast_nonneg _) hlt, Int.toNat_natCast,
    UInt16.ofNat_toNat]

/-! ## The parts of a text -/

/-- What stands in front of the first colon. -/
def addressPart (text : String) : String :=
  String.ofList (text.toList.takeWhile (· ≠ ':'))

/-- What stands behind the first colon, or all of a text without one. -/
def portPart (text : String) : List Char :=
  if ':' ∈ text.toList then (text.toList.dropWhile (· ≠ ':')).tail else text.toList

theorem toList_addressPart (text : String) :
    (addressPart text).toList = text.toList.takeWhile (· ≠ ':') :=
  String.toList_ofList

theorem colon_notMem_addressPart (text : String) : ':' ∉ (addressPart text).toList := by
  rw [toList_addressPart]
  intro hmem
  have hne := List.mem_takeWhile_imp hmem
  simp at hne

/-- The parts of a text whose first colon is known. -/
theorem parts_of_toList_eq {text : String} {front back : List Char}
    (htext : text.toList = front ++ ':' :: back) (hfront : ':' ∉ front) :
    addressPart text = String.ofList front ∧ portPart text = back := by
  have hne : ∀ c ∈ front, decide (c ≠ ':') = true := by
    intro c hc
    rw [decide_eq_true_eq]
    rintro rfl
    exact hfront hc
  have hcolon : ':' ∈ text.toList := by
    rw [htext]
    simp
  constructor
  · rw [addressPart, htext, List.takeWhile_append_of_pos hne]
    simp
  · rw [portPart, if_pos hcolon, htext, List.dropWhile_append_of_pos hne]
    simp

/-- A text with a colon is cut there. -/
theorem toList_eq_parts {text : String} (hcolon : ':' ∈ text.toList) :
    text.toList = (addressPart text).toList ++ ':' :: portPart text := by
  obtain ⟨front, back, htext, hfront⟩ := List.eq_append_cons_of_mem hcolon
  obtain ⟨haddress, hport⟩ := parts_of_toList_eq htext hfront
  rw [haddress, hport, String.toList_ofList]
  exact htext

/-- `str_to_endpoint` gives the address of the one part and the port of the other. -/
theorem strToEndpoint_eq_ok_iff {platform : Platform} {text : String} {ep : Endpoint} :
    strToEndpoint platform text = .ok ep ↔
      ∃ port, stoi (portPart text) = .ok port ∧
        platform.addressFromString (addressPart text) = some ep.address ∧
        ep.port = UInt16.ofInt port := by
  have hparts : strToEndpoint platform text = (do
      let port ← stoi (portPart text)
      let address ← parseAddress platform (addressPart text)
      return ⟨address, UInt16.ofInt port⟩) := rfl
  simp only [hparts, Fallible.bind_eq_ok, Fallible.pure_eq_ok, parseAddress]
  constructor
  · rintro ⟨port, hport, address, haddress, rfl⟩
    refine ⟨port, hport, ?_, rfl⟩
    cases hfrom : platform.addressFromString (addressPart text) with
    | none =>
        rw [hfrom] at haddress
        cases haddress
    | some found =>
        rw [hfrom] at haddress
        rw [Except.ok.inj haddress]
  · rintro ⟨port, hport, haddress, hep⟩
    refine ⟨port, hport, ep.address, ?_, ?_⟩
    · rw [haddress]
    · rw [← hep]

/-- An endpoint whose address text has no colon is read back. -/
theorem strToEndpoint_of_noColon {platform : Platform} {ep : Endpoint}
    (haddress : platform.addressFromString (platform.addressToString ep.address) =
      some ep.address)
    (hnoColon : ':' ∉ (platform.addressToString ep.address).toList) :
    strToEndpoint platform (endpointToStr platform ep) = .ok ep := by
  have htext : (endpointToStr platform ep).toList =
      (platform.addressToString ep.address).toList ++ ':' :: ep.port.toNat.repr.toList := by
    simp [endpointToStr]
  obtain ⟨hfront, hport⟩ := parts_of_toList_eq htext hnoColon
  rw [strToEndpoint_eq_ok_iff, hfront, hport, String.ofList_toList]
  exact ⟨ep.port.toNat, stoi_repr ep.port, haddress, (ofInt_toNat ep.port).symm⟩

/-- `str_to_endpoint` reads back what `endpoint_to_str` writes. -/
theorem strToEndpoint_endpointToStr {platform : Platform}
    (hreads : platform.ReadsBack) {ep : Endpoint} (hv4 : ep.IsV4) :
    strToEndpoint platform (endpointToStr platform ep) = .ok ep := by
  obtain ⟨bits, hbits⟩ := hv4
  apply strToEndpoint_of_noColon
  · rw [hbits]
    exact hreads.address bits
  · rw [hbits]
    exact hreads.noColon bits

/-- The texts of a list of endpoints are read back one by one. -/
theorem mapM_strToEndpoint {platform : Platform} (hreads : platform.ReadsBack)
    {eps : List Endpoint} (hv4 : ∀ ep ∈ eps, ep.IsV4) :
    (eps.map (endpointToStr platform)).mapM (strToEndpoint platform) = .ok eps :=
  Fallible.mapM_map_eq_ok_iff.mpr fun ep hep =>
    strToEndpoint_endpointToStr hreads (hv4 ep hep)

def endpointTexts (platform : Platform) (eps : List Endpoint) : Json :=
  .array (eps.map fun ep => .string (endpointToStr platform ep))

theorem getStrings_endpointTexts (platform : Platform) (eps : List Endpoint) :
    (endpointTexts platform eps).getStrings = .ok (eps.map (endpointToStr platform)) := by
  rw [endpointTexts, Json.getStrings]
  induction eps with
  | nil => rfl
  | cons ep eps ih =>
      rw [List.map_cons, List.mapM_cons, ih]
      rfl

/-- Dotted decimal has no colon. -/
theorem colon_notMem_ipv4Text (bits : BitVec 32) : ':' ∉ (ipv4Text bits).toList := by
  have hdigits : ∀ n, ':' ∉ Nat.toDigits 10 n := by
    intro n hmem
    have hdigit := Nat.isDigit_of_mem_toDigits (by decide) (by decide) hmem
    revert hdigit
    decide
  have hdot : ':' ≠ '.' := by decide
  rw [ipv4Text, String.toList_ofList]
  simp only [octets, List.map_cons, List.map_nil, List.intercalate_cons_cons,
    List.intercalate_singleton, List.mem_append, List.mem_singleton, hdigits, hdot,
    or_false, not_false_eq_true]

section HostPlatform

variable (documents : List (List UInt8 × List (String × Json)))

theorem hostPlatform_addressFromString (text : String) :
    (hostPlatform documents).addressFromString text = (ipv4OfText text).map .v4 := rfl

theorem hostPlatform_addressToString (bits : BitVec 32) :
    (hostPlatform documents).addressToString (.v4 bits) = ipv4Text bits := rfl

theorem hostPlatform_uuidFromString (text : String) :
    (hostPlatform documents).uuidFromString text = uuidOfText text := by
  rw [hostPlatform]

theorem hostPlatform_uuidToString (id : Uuid) :
    (hostPlatform documents).uuidToString id = uuidText id := rfl

/-- The host platform reads its texts back. -/
theorem readsBack_hostPlatform : (hostPlatform documents).ReadsBack where
  address bits := by
    rw [hostPlatform_addressToString, hostPlatform_addressFromString,
      ipv4OfText_ipv4Text, Option.map_some]
  noColon bits := by
    rw [hostPlatform_addressToString]
    exact colon_notMem_ipv4Text bits
  uuid id := by
    rw [hostPlatform_uuidToString, hostPlatform_uuidFromString, uuidOfText_uuidText]

end HostPlatform

end SsP2p

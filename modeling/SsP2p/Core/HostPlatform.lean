import SsP2p.Core.Utils
import Mathlib.Data.BitVec

/-!
# A host platform

The texts of IPv4 addresses and of observer ids as Boost writes them, with the
parsers that accept exactly these texts.  `hostPlatform` puts them together with
the digests of a few nodes of a small network.
-/

namespace SsP2p

/-- The octets of an IPv4 address from the front. -/
def octets (bits : BitVec 32) : List ℕ :=
  [bits.toNat / 2 ^ 24, bits.toNat / 2 ^ 16 % 2 ^ 8, bits.toNat / 2 ^ 8 % 2 ^ 8,
    bits.toNat % 2 ^ 8]

def ipv4Text (bits : BitVec 32) : String :=
  String.ofList (['.'].intercalate ((octets bits).map (Nat.toDigits 10)))

def ipv4OfText (text : String) : Option (BitVec 32) :=
  let parts := text.toList.splitOn '.'
  let value := parts.foldl (fun value part => value * 2 ^ 8 + Nat.ofDigitChars 10 part 0) 0
  if ipv4Text (BitVec.ofNat 32 value) = text then some (BitVec.ofNat 32 value) else none

theorem dot_notMem_toDigits (n : ℕ) : '.' ∉ Nat.toDigits 10 n := by
  intro hmem
  have hdigit := Nat.isDigit_of_mem_toDigits (by decide) (by decide) hmem
  revert hdigit
  decide

theorem ipv4OfText_ipv4Text (bits : BitVec 32) :
    ipv4OfText (ipv4Text bits) = some bits := by
  have hparts : (ipv4Text bits).toList.splitOn '.' =
      (octets bits).map (Nat.toDigits 10) := by
    rw [ipv4Text, String.toList_ofList]
    apply List.splitOn_intercalate
    · intro part hpart
      obtain ⟨octet, -, rfl⟩ := List.mem_map.mp hpart
      exact dot_notMem_toDigits octet
    · simp [octets]
  have hvalue : ((octets bits).map (Nat.toDigits 10)).foldl
      (fun value part => value * 2 ^ 8 + Nat.ofDigitChars 10 part 0) 0 =
        bits.toNat := by
    simp only [octets, List.map_cons, List.map_nil, List.foldl_cons, List.foldl_nil,
      Nat.ofDigitChars_ten_toDigits]
    omega
  simp only [ipv4OfText, hparts, hvalue, BitVec.ofNat_toNat, BitVec.setWidth_eq,
    if_true]

def hexDigits : ℕ → ℕ → List Char
  | 0, _ => []
  | count + 1, n => hexDigits count (n / 16) ++ [Nat.digitChar (n % 16)]

def hexValue (c : Char) : ℕ :=
  if c.isDigit then c.toNat - '0'.toNat else c.toNat - 'a'.toNat + 10

def ofHexDigits (digits : List Char) : ℕ :=
  digits.foldl (fun value c => value * 16 + hexValue c) 0

theorem hexValue_digitChar {digit : ℕ} (hdigit : digit < 16) :
    hexValue (Nat.digitChar digit) = digit := by
  have hall : ∀ d : Fin 16, hexValue (Nat.digitChar d) = d := by decide
  exact hall ⟨digit, hdigit⟩

theorem ofHexDigits_hexDigits (count n : ℕ) :
    ofHexDigits (hexDigits count n) = n % 16 ^ count := by
  induction count generalizing n with
  | zero => simp [hexDigits, ofHexDigits, Nat.mod_one]
  | succ count ih =>
      have hfold := ih (n / 16)
      rw [ofHexDigits] at hfold
      simp only [hexDigits, ofHexDigits, List.foldl_append, List.foldl_cons,
        List.foldl_nil, hfold, hexValue_digitChar (Nat.mod_lt n (by decide))]
      rw [pow_succ', Nat.mod_mul, Nat.add_comm, Nat.mul_comm]

/-- What is no hexadecimal digit does not separate them. -/
theorem notMem_hexDigits {c : Char} (hc : ∀ d : Fin 16, Nat.digitChar d ≠ c)
    (count n : ℕ) : c ∉ hexDigits count n := by
  induction count generalizing n with
  | zero => simp [hexDigits]
  | succ count ih =>
      have hlast := hc ⟨n % 16, Nat.mod_lt n (by decide)⟩
      simp only [hexDigits, List.mem_append, List.mem_singleton, not_or]
      exact ⟨ih (n / 16), fun heq => hlast heq.symm⟩

theorem filter_hexDigits {c : Char} (hc : ∀ d : Fin 16, Nat.digitChar d ≠ c)
    (count n : ℕ) : (hexDigits count n).filter (· ≠ c) = hexDigits count n := by
  rw [List.filter_eq_self]
  intro digit hdigit
  simp only [decide_eq_true_eq]
  rintro rfl
  exact notMem_hexDigits hc count n hdigit

/-- `boost::uuids::to_string`: 8, 4, 4, 4 and 12 digits. -/
def uuidText (id : Uuid) : String :=
  String.ofList (['-'].intercalate
    [hexDigits 8 (id.toNat / 16 ^ 24), hexDigits 4 (id.toNat / 16 ^ 20),
      hexDigits 4 (id.toNat / 16 ^ 16), hexDigits 4 (id.toNat / 16 ^ 12),
      hexDigits 12 id.toNat])

def uuidOfText (text : String) : Option Uuid :=
  let value := ofHexDigits (text.toList.filter (· ≠ '-'))
  if uuidText (BitVec.ofNat 128 value) = text then some (BitVec.ofNat 128 value)
  else none

/-- Digits of the upper part, then of the lower one. -/
theorem hexDigits_add (upper lower n : ℕ) :
    hexDigits (upper + lower) n =
      hexDigits upper (n / 16 ^ lower) ++ hexDigits lower n := by
  induction lower generalizing n with
  | zero => simp [hexDigits]
  | succ lower ih =>
      rw [← Nat.add_assoc, hexDigits, ih, hexDigits, List.append_assoc,
        Nat.div_div_eq_div_mul, ← pow_succ']

theorem uuidOfText_uuidText (id : Uuid) : uuidOfText (uuidText id) = some id := by
  have hdigits : (uuidText id).toList.filter (· ≠ '-') = hexDigits 32 id.toNat := by
    rw [hexDigits_add 20 12, hexDigits_add 16 4, hexDigits_add 12 4,
      hexDigits_add 8 4]
    have hdash : ∀ d : Fin 16, Nat.digitChar d ≠ '-' := by decide
    simp only [uuidText, String.toList_ofList, List.intercalate_cons_cons,
      List.intercalate_singleton, List.filter_append, filter_hexDigits hdash,
      Nat.div_div_eq_div_mul]
    simp
  have hlt : id.toNat < 16 ^ 32 := id.isLt
  simp only [uuidOfText, hdigits, ofHexDigits_hexDigits, Nat.mod_eq_of_lt hlt,
    BitVec.ofNat_toNat, BitVec.setWidth_eq, if_true]

def digestOfNat (value : ℕ) : Digest :=
  Vector.ofFn fun i => UInt8.ofNat (value >>> (8 * (19 - i.val)))

/-- SHA-1 on the binary forms and the texts of the nodes `10.0.0.1:8100` to
`10.0.0.5:8100`. -/
def nodeDigests : List (List UInt8 × ℕ) :=
  [(bytesOf "10.0.0.1" ++ [164, 31], 0xa67566225088ab94c464b966cd1e2faf4ca7a715),
    (bytesOf "10.0.0.2" ++ [164, 31], 0x9c326a5b282df46e9cb451e263f0d98637c007b9),
    (bytesOf "10.0.0.3" ++ [164, 31], 0x263dd4799f70cd11fe33fe99683514dc28ccb75f),
    (bytesOf "10.0.0.4" ++ [164, 31], 0x54c1dde463093f92ef053b3637ab332b7395b4b5),
    (bytesOf "10.0.0.5" ++ [164, 31], 0x623e0b2d0be106590aad1802c37b72ad18fda5ad),
    (bytesOf "10.0.0.1:8100", 0x7f1836daffd92d7342b99458dbdd70631cd97b0c),
    (bytesOf "10.0.0.2:8100", 0xb9fb4ef30f3271f4e5060f74d7bc06e4eb2145db),
    (bytesOf "10.0.0.3:8100", 0xe1abd6d6b209bf6df9a2fb6621207536c72bd1dc),
    (bytesOf "10.0.0.4:8100", 0xb170b34005c05102df54a993c4d470efa3fe4126),
    (bytesOf "10.0.0.5:8100", 0x79c4c7ba320013a059d7a792681f03d749fd768d)]

/-- SHA-1 where `nodeDigests` tells it. -/
def nodeSha1 (bytes : List UInt8) : Digest :=
  let found := nodeDigests.find? fun entry => entry.1 == bytes
  digestOfNat ((found.map Prod.snd).getD 0)

/-- A platform for a network of IPv4 nodes that decodes the given documents. -/
def hostPlatform (documents : List (List UInt8 × List (String × Json))) :
    Platform where
  addressToString
    | .v4 bits => ipv4Text bits
    | .v6 _ _ => ""
  addressFromString text := (ipv4OfText text).map .v4
  uuidToString := uuidText
  uuidFromString := uuidOfText
  sha1 := nodeSha1
  fromBson bytes := (documents.find? fun entry => entry.1 == bytes).map Prod.snd
  truncate _ := 0
  counterSort := Plurality.byMergeSort

/-- The node `10.0.0.n:8100`. -/
def nodeAt (n : ℕ) : Endpoint := ⟨.v4 (0x0A000000#32 + BitVec.ofNat 32 n), 8100⟩

end SsP2p

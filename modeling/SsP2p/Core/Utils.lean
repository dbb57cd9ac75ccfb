import SsP2p.Core.Endpoint
import SsP2p.Core.Json
import SsP2p.Lib.Plurality

/-!
# Library functions and endpoint texts

`Platform` gathers the functions of Boost, of the hash library and of the BSON
reader that the program calls.  On top of it stand the conversions of
`utils.cpp` between endpoints and bytes or strings.
-/

namespace SsP2p

abbrev Uuid := BitVec 128

instance : LawfulBEq Uuid := inferInstance

abbrev Digest := Vector UInt8 20

/-- How `std::sort` orders the entries of `counter_v`. -/
abbrev CounterSort := StdSort (Plurality.MoreVotes : Endpoint × UInt16 → _ → Prop)

/-- The library functions behind the program. -/
structure Platform where
  /-- `address::to_string`. -/
  addressToString : Address → String
  /-- `address::from_string`, `none` where it raises. -/
  addressFromString : String → Option Address
  /-- `boost::uuids::to_string`. -/
  uuidToString : Uuid → String
  /-- `string_generator`, `none` where it raises. -/
  uuidFromString : String → Option Uuid
  /-- `cu::sha1::hash`. -/
  sha1 : List UInt8 → Digest
  /-- `from_bson`, `none` where it raises; a document is always an object. -/
  fromBson : List UInt8 → Option (List (String × Json))
  /-- The conversion of a `double`, given by its bits, to an integer. -/
  truncate : UInt64 → ℤ
  /-- `std::sort` as the election of the global endpoint calls it. -/
  counterSort : CounterSort

def bytesOf (text : String) : List UInt8 :=
  text.toList.map fun c => UInt8.ofNat c.toNat

def isSpace (c : Char) : Bool :=
  c = ' ' || (9 ≤ c.toNat && c.toNat ≤ 13)

/-- `std::stoi`: blanks, an optional sign, then the longest run of digits. -/
def stoi (text : List Char) : Except Fault ℤ :=
  let trimmed := text.dropWhile isSpace
  let negative := trimmed.head? = some '-'
  let unsigned :=
    if negative || trimmed.head? = some '+' then trimmed.tail else trimmed
  let digits := unsigned.takeWhile Char.isDigit
  if digits.isEmpty then .error .invalidArgument
  else
    let magnitude : ℤ := Nat.ofDigitChars 10 digits 0
    let value := if negative then -magnitude else magnitude
    if -(2 ^ 31) ≤ value && value < 2 ^ 31 then .ok value else .error .outOfRange

section Conversions

variable (platform : Platform)

def parseAddress (text : String) : Except Fault Address :=
  match platform.addressFromString text with
  | some address => .ok address
  | none => .error .badAddress

/-- `endpoint_to_binary`: the address text, then the port in host byte order. -/
def endpointToBinary (ep : Endpoint) : List UInt8 :=
  bytesOf (platform.addressToString ep.address) ++
    [ep.port.toUInt8, (ep.port >>> 8).toUInt8]

def endpointToStr (ep : Endpoint) : String :=
  platform.addressToString ep.address ++ ":" ++ ep.port.toNat.repr

/-- `str_to_endpoint`: both substrings are cut at the first colon, and without
one `npos + 1` wraps to the start of the string. -/
def strToEndpoint (epStr : String) : Except Fault Endpoint := do
  let chars := epStr.toList
  let ipv4 := String.ofList (chars.takeWhile (· ≠ ':'))
  let portText := if ':' ∈ chars then (chars.dropWhile (· ≠ ':')).tail else chars
  let port ← stoi portText
  let address ← parseAddress platform ipv4
  return ⟨address, UInt16.ofInt port⟩

def addrPairToEndpoint (ip : String) (port : UInt16) : Except Fault Endpoint := do
  let address ← parseAddress platform ip
  return ⟨address, port⟩

def strToObserverId (text : String) : Except Fault Uuid :=
  match platform.uuidFromString text with
  | some id => .ok id
  | none => .error .badUuid

end Conversions

end SsP2p

import SsP2p.Core.JsonTree
import SsP2p.Core.Utils
import SsP2p.Lib.LittleEndian
import SsP2p.Lib.Reader

/-!
# BSON

The writer and the reader of the JSON library, `to_bson` and `from_bson`.  The
writer computes the size of every document before it writes it; the reader skips
that size and goes by the type byte of each element, up to a zero byte.
-/

namespace SsP2p.Bson

/-! ## The writer -/

/-- The `out_of_range` of the writer with its number and text. -/
structure OutOfRange where
  id : ℕ
  text : String
  deriving DecidableEq, Repr

/-- `calc_bson_entry_header_size`: the type byte, the name and its terminator. -/
def calcBsonEntryHeaderSize (name : String) : Except OutOfRange ℕ :=
  match (bytesOf name).idxOf? 0 with
  | some position =>
      .error ⟨409, "BSON key cannot contain code point U+0000 (at byte " ++
        position.repr ++ ")"⟩
  | none => .ok ((bytesOf name).length + 2)

def calcBsonIntegerSize (value : ℤ) : ℕ :=
  if LittleEndian.Fits 4 value then 4 else 8

def calcBsonStringSize (value : String) : ℕ := (bytesOf value).length + 5

def calcBsonBinarySize (value : List UInt8) : ℕ := value.length + 5

mutual

def calcBsonElementSize (name : String) (value : Json) : Except OutOfRange ℕ := do
  let headerSize ← calcBsonEntryHeaderSize name
  match value with
  | .object fields => do
      let size ← calcFieldSizes fields
      return headerSize + (size + 5)
  | .array items => do
      let size ← calcItemSizes 0 items
      return headerSize + (size + 5)
  | .binary bytes _ => return headerSize + calcBsonBinarySize bytes
  | .boolean _ => return headerSize + 1
  | .float _ => return headerSize + 8
  | .integer value => return headerSize + calcBsonIntegerSize value
  | .string text => return headerSize + calcBsonStringSize text
  | .null => return headerSize

/-- The sum in `calc_bson_object_size`. -/
def calcFieldSizes : List (String × Json) → Except OutOfRange ℕ
  | [] => .ok 0
  | (name, value) :: fields => do
      let size ← calcBsonElementSize name value
      let rest ← calcFieldSizes fields
      return size + rest

/-- The sum in `calc_bson_array_size`; the items are named by their index. -/
def calcItemSizes (arrayIndex : ℕ) : List Json → Except OutOfRange ℕ
  | [] => .ok 0
  | value :: items => do
      let size ← calcBsonElementSize arrayIndex.repr value
      let rest ← calcItemSizes (arrayIndex + 1) items
      return size + rest

end

def calcBsonObjectSize (fields : List (String × Json)) : Except OutOfRange ℕ := do
  let documentSize ← calcFieldSizes fields
  return documentSize + 5

def calcBsonArraySize (items : List Json) : Except OutOfRange ℕ := do
  let embeddedDocumentSize ← calcItemSizes 0 items
  return embeddedDocumentSize + 5

def writeBsonEntryHeader (name : String) (elementType : UInt8) : List UInt8 :=
  elementType :: bytesOf name ++ [0]

/-- `write_bson_integer` and `write_bson_unsigned`; only the latter meets a value that
does not fit. -/
def writeBsonInteger (name : String) (value : ℤ) : Except OutOfRange (List UInt8) :=
  if LittleEndian.Fits 4 value then
    .ok (writeBsonEntryHeader name 0x10 ++ LittleEndian.encodeInt 4 value)
  else if LittleEndian.Fits 8 value then
    .ok (writeBsonEntryHeader name 0x12 ++ LittleEndian.encodeInt 8 value)
  else
    .error ⟨407, "integer number " ++ toString value ++
      " cannot be represented by BSON as it does not fit int64"⟩

def writeBsonString (name value : String) : List UInt8 :=
  writeBsonEntryHeader name 0x02 ++
    (LittleEndian.encodeInt 4 ((bytesOf value).length + 1) ++ bytesOf value ++ [0])

/-- `write_bson_binary`: the lowest byte of the subtype is written. -/
def writeBsonBinary (name : String) (value : List UInt8) (subtype : Option UInt64) :
    List UInt8 :=
  writeBsonEntryHeader name 0x05 ++
    (LittleEndian.encodeInt 4 value.length ++ subtype.elim 0 UInt64.toUInt8 :: value)

mutual

def writeBsonElement (name : String) : Json → Except OutOfRange (List UInt8)
  | .object fields => do
      let size ← calcBsonObjectSize fields
      let elements ← writeFields fields
      return writeBsonEntryHeader name 0x03 ++
        (LittleEndian.encodeInt 4 size ++ elements ++ [0])
  | .array items => do
      let size ← calcBsonArraySize items
      let elements ← writeItems 0 items
      return writeBsonEntryHeader name 0x04 ++
        (LittleEndian.encodeInt 4 size ++ elements ++ [0])
  | .binary bytes subtype => .ok (writeBsonBinary name bytes subtype)
  | .boolean value => .ok (writeBsonEntryHeader name 0x08 ++ [if value then 1 else 0])
  | .float bits => .ok (writeBsonEntryHeader name 0x01 ++ LittleEndian.encode 8 bits.toNat)
  | .integer value => writeBsonInteger name value
  | .string text => .ok (writeBsonString name text)
  | .null => .ok (writeBsonEntryHeader name 0x0A)

/-- The loop of `write_bson_object`. -/
def writeFields : List (String × Json) → Except OutOfRange (List UInt8)
  | [] => .ok []
  | (name, value) :: fields => do
      let element ← writeBsonElement name value
      let elements ← writeFields fields
      return element ++ elements

/-- The loop of `write_bson_array`. -/
def writeItems (arrayIndex : ℕ) : List Json → Except OutOfRange (List UInt8)
  | [] => .ok []
  | value :: items => do
      let element ← writeBsonElement arrayIndex.repr value
      let elements ← writeItems (arrayIndex + 1) items
      return element ++ elements

end

def writeBsonObject (fields : List (String × Json)) : Except OutOfRange (List UInt8) := do
  let size ← calcBsonObjectSize fields
  let elements ← writeFields fields
  return LittleEndian.encodeInt 4 size ++ elements ++ [0]

/-- `to_bson`: an object is a `std::map`, so the fields come in the order of their
names. -/
def toBson (fields : List (String × Json)) : Except OutOfRange (List UInt8) :=
  writeBsonObject (Json.orderedFields fields)

example : toBson [("b", .null), ("a", .array [.boolean true])] =
    .ok [0x14, 0, 0, 0, 0x04, 0x61, 0, 0x09, 0, 0, 0, 0x08, 0x30, 0, 1, 0,
      0x0A, 0x62, 0, 0] := by
  decide

/-! ## The reader -/

/-- How the reader ends without a value. -/
inductive Stop where
  /-- A `parse_error` with its number. -/
  | parseError (id : ℕ)
  /-- Nothing is raised, and `from_bson` returns a discarded value. -/
  | discarded
  deriving DecidableEq, Repr

abbrev ByteReader (Value : Type) := Reader UInt8 Stop Value

def stringOf (bytes : List UInt8) : String :=
  String.ofList (bytes.map fun byte => Char.ofNat byte.toNat)

/-- `get_string` and `get_binary`: as many bytes as the length says. -/
def getBytes (length : ℕ) : ByteReader (List UInt8) := fun input =>
  if length ≤ input.length then .ok (input.take length, input.drop length)
  else .error (.parseError 110)

def getNumber (width : ℕ) : ByteReader ℕ :=
  (getBytes width).andThen fun bytes => .done (LittleEndian.decode bytes)

/-- `get_number` at a signed type. -/
def getInt (width : ℕ) : ByteReader ℤ :=
  (getNumber width).andThen fun value => .done (LittleEndian.toInt width value)

def getBsonCstr : ByteReader (List UInt8)
  | [] => .error (.parseError 110)
  | byte :: input =>
      if byte = 0 then .ok ([], input)
      else do
        let (result, rest) ← getBsonCstr input
        return (byte :: result, rest)

/-- The `get` behind a string: its byte is not looked at, and nothing is raised at the
end of the input. -/
def skipTerminator : ByteReader Unit
  | [] => .error .discarded
  | _ :: input => .ok ((), input)

def getBsonString (len : ℤ) : ByteReader String :=
  if len < 1 then .stop (.parseError 112)
  else (getBytes (len - 1).toNat).andThen fun bytes =>
    skipTerminator.andThen fun _ => .done (stringOf bytes)

/-- `get_bson_binary`: every binary that is read has a subtype. -/
def getBsonBinary (len : ℤ) : ByteReader Json :=
  if len < 0 then .stop (.parseError 112)
  else (getNumber 1).andThen fun subtype =>
    (getBytes len.toNat).andThen fun bytes =>
      .done (.binary bytes (some (UInt64.ofNat subtype)))

/-- The boolean element: the end of the input counts as true. -/
def getBoolean : ByteReader Bool
  | [] => .ok (true, [])
  | byte :: input => .ok (byte != 0, input)

/-- What the parser makes of the elements of an object: a name that comes again is
assigned again. -/
def ofElements (elements : List (String × Json)) : List (String × Json) :=
  elements.foldl (fun fields element => assignField element.1 element.2 fields) []

section Documents

-- The reader of an element list, which is the recursion of the parser.
variable (parseBsonElementList : ByteReader (List (String × Json)))

/-- `parse_bson_internal`; the size of the document is not used. -/
def parseBsonInternal : ByteReader Json :=
  (getInt 4).andThen fun _ =>
    parseBsonElementList.andThen fun elements => .done (.object (ofElements elements))

/-- `parse_bson_array`; the names of the items are not used. -/
def parseBsonArray : ByteReader Json :=
  (getInt 4).andThen fun _ =>
    parseBsonElementList.andThen fun elements => .done (.array (elements.map Prod.snd))

def parseBsonElementInternal (elementType : UInt8) : ByteReader Json :=
  match elementType.toNat with
  | 0x01 => (getNumber 8).andThen fun bits => .done (.float (UInt64.ofNat bits))
  | 0x02 => (getInt 4).andThen fun len =>
      (getBsonString len).andThen fun text => .done (.string text)
  | 0x03 => parseBsonInternal parseBsonElementList
  | 0x04 => parseBsonArray parseBsonElementList
  | 0x05 => (getInt 4).andThen getBsonBinary
  | 0x08 => getBoolean.andThen fun value => .done (.boolean value)
  | 0x0A => .done .null
  | 0x10 => (getInt 4).andThen fun value => .done (.integer value)
  | 0x12 => (getInt 8).andThen fun value => .done (.integer value)
  | _ => .stop (.parseError 114)

end Documents

/-- `parse_bson_element_list`.  Every round takes a byte at least, so with as many
rounds as bytes the input is at its end when they are used up. -/
def parseRounds : ℕ → ByteReader (List (String × Json))
  | 0, _ => .error (.parseError 110)
  | _ + 1, [] => .error (.parseError 110)
  | rounds + 1, elementType :: input =>
      if elementType = 0 then .ok ([], input)
      else
        (getBsonCstr.andThen fun key =>
          (parseBsonElementInternal (parseRounds rounds) elementType).andThen fun value =>
            (parseRounds rounds).andThen fun elements =>
              .done ((stringOf key, value) :: elements)) input

/-- `parse_bson_element_list` with rounds enough for its input. -/
def parseBsonElementList : ByteReader (List (String × Json)) := fun input =>
  parseRounds input.length input

/-- `from_bson`: nothing may follow the document. -/
def fromBson (bytes : List UInt8) : Except Stop Json := do
  let (document, rest) ← parseBsonInternal parseBsonElementList bytes
  if rest = [] then return document else .error (.parseError 110)

end SsP2p.Bson

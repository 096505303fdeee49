/-!
# Wire types and decoding faults

What can be wrong with encoded bytes. A `Fault` is the cause alone; a
`DecodeError` adds the fields inside which it was found, innermost first,
and has the full wording as `DecodeError.message`.
-/

namespace DistLock.Wire

/-- Bytes of an encoded message. -/
abbrev Bytes := List UInt8

/-- How the value of a field is laid out. -/
inductive WireType where
  | varint
  | sixtyFourBit
  | lengthDelimited
  | startGroup
  | endGroup
  | thirtyTwoBit
  deriving DecidableEq, Repr

namespace WireType

/-- The number in the low three bits of a key. -/
def code : WireType → Nat
  | .varint => 0
  | .sixtyFourBit => 1
  | .lengthDelimited => 2
  | .startGroup => 3
  | .endGroup => 4
  | .thirtyTwoBit => 5

/-- The layout with the given number; 6 and 7 name none. -/
def ofCode? : Nat → Option WireType
  | 0 => some .varint
  | 1 => some .sixtyFourBit
  | 2 => some .lengthDelimited
  | 3 => some .startGroup
  | 4 => some .endGroup
  | 5 => some .thirtyTwoBit
  | _ => none

def name : WireType → String
  | .varint => "Varint"
  | .sixtyFourBit => "SixtyFourBit"
  | .lengthDelimited => "LengthDelimited"
  | .startGroup => "StartGroup"
  | .endGroup => "EndGroup"
  | .thirtyTwoBit => "ThirtyTwoBit"

@[simp] theorem ofCode?_code (w : WireType) : ofCode? w.code = some w := by cases w <;> rfl

theorem code_lt (w : WireType) : w.code < 8 := by cases w <;> decide

end WireType

/-- Why bytes could not be decoded. -/
inductive Fault where
  /-- A number is cut off, has more than ten bytes or does not fit 64 bits. -/
  | invalidVarint
  /-- A key does not fit 32 bits. -/
  | invalidKey (key : Nat)
  /-- A key names no layout. -/
  | unknownWireType (code : Nat)
  /-- A key has the tag zero. -/
  | zeroTag
  /-- A known field has another layout than its type. -/
  | wrongWireType (actual expected : WireType)
  /-- A length reaches beyond the bytes there are. -/
  | underflow
  /-- The fields of a nested message ran past its length. -/
  | lengthExceeded
  /-- A group ends that was not open. -/
  | strayEndGroup
  /-- A text field does not hold text. -/
  | invalidText
  /-- Messages and groups are nested too deeply. -/
  | tooDeep
  deriving DecidableEq, Repr

def Fault.message : Fault → String
  | .invalidVarint => "invalid varint"
  | .invalidKey key => s!"invalid key value: {key}"
  | .unknownWireType code => s!"invalid wire type value: {code}"
  | .zeroTag => "invalid tag value: 0"
  | .wrongWireType actual expected =>
    s!"invalid wire type: {actual.name} (expected {expected.name})"
  | .underflow => "buffer underflow"
  | .lengthExceeded => "delimited length exceeded"
  | .strayEndGroup => "unexpected end group tag"
  | .invalidText => "invalid string value: data is not UTF-8 encoded"
  | .tooDeep => "recursion limit reached"

/-- A field of a message type, both by name. -/
structure FieldName where
  message : String
  field : String
  deriving DecidableEq, Repr

/-- A fault and the known fields inside whose values it was found,
innermost first. -/
structure DecodeError where
  fault : Fault
  location : List FieldName := []
  deriving DecidableEq, Repr

namespace DecodeError

/-- The same error, seen from the message whose field `name` held the bytes. -/
def inside (name : FieldName) (e : DecodeError) : DecodeError :=
  { e with location := e.location ++ [name] }

def message (e : DecodeError) : String :=
  "failed to decode Protobuf message: "
    ++ String.join (e.location.map fun n => n.message ++ "." ++ n.field ++ ": ")
    ++ e.fault.message

end DecodeError

end DistLock.Wire

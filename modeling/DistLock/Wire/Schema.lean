import DistLock.Wire.Key

/-!
# Message schemas

A message type is described by the table of its fields (`Schema`); writing,
measuring, and merging bytes into a message are defined once for all tables.

* `encode` writes the fields in the order of the table;
* `size` computes the length of that without writing;
* `merge` reads fields into a message there already is: the last value of a
  field wins, nested messages are merged, unknown fields are passed over;
* `decode` merges into the message in which nothing is set.

The kinds of field are `Field.text`, `Field.int32`, `Field.optionalInt32`,
`Field.flag` and `Field.nested`. All but the optional ones are written only
when they differ from their default.
-/

namespace DistLock.Wire

/-! ## Scalars -/

/-- The UTF-8 bytes of a text. -/
def bytesOfText (s : String) : Bytes := s.toByteArray.data.toList

/-- The text with the given UTF-8 bytes. -/
def textOfBytes? (bs : Bytes) : Option String := String.fromUTF8? ⟨bs.toArray⟩

/-- A signed number is written as the 64-bit number with the same low bits. -/
def varintOfInt32 (n : Int32) : Nat := (n.toInt % Int.pow 2 64).toNat

/-- The low 32 bits count. -/
def int32OfVarint (n : Nat) : Int32 := Int32.ofInt n

/-- A length and that many bytes. -/
def writeDelimited (bs : Bytes) : Bytes := writeVarint bs.length ++ bs

/-- Reads a length and that many bytes. -/
def readDelimited (bs : Bytes) : Except Fault (Bytes × Bytes) :=
  match readVarint bs with
  | .error e => .error e
  | .ok (n, rest) =>
    if rest.length < n then .error .underflow else .ok (rest.take n, rest.drop n)

/-- A known field is read only in the layout of its type. -/
def expectWireType (expected actual : WireType) : Except Fault Unit :=
  if actual = expected then .ok () else .error (.wrongWireType actual expected)

/-! ## Fields and schemas -/

/-- How one field of the messages `α` is written and read. -/
structure Field (α : Type) where
  tag : Nat
  name : String
  /-- The bytes of the field with its key, none when there is
  nothing to write. -/
  write : α → Bytes
  /-- The number of these bytes. -/
  size : α → Nat
  /-- Reads the value that follows a key with the given layout into a
  message, with `levels` left for nesting. -/
  read : (levels : Nat) → WireType → α → Bytes → Except DecodeError (α × Bytes)

/-- The table of a message type. -/
structure Schema (α : Type) where
  name : String
  fields : List (Field α)
  /-- The message in which nothing is set. -/
  empty : α

namespace Schema

variable {α : Type}

def encode (s : Schema α) (m : α) : Bytes := s.fields.flatMap (·.write m)

def size (s : Schema α) (m : α) : Nat := s.fields.foldr (fun f n => f.size m + n) 0

/-- Reads one field, known or not, into `m`. -/
def readField (s : Schema α) (levels : Nat) (m : α) (bs : Bytes) :
    Except DecodeError (α × Bytes) :=
  match readKey bs with
  | .error e => .error { fault := e }
  | .ok (tag, w, rest) =>
    match s.fields.find? (·.tag == tag) with
    | some f => (f.read levels w m rest).mapError (·.inside ⟨s.name, f.name⟩)
    | none =>
      match skip levels tag w rest with
      | .error e => .error { fault := e }
      | .ok rest => .ok (m, rest)

/-- Reads fields until at most `stop` bytes are left. Every field takes a
byte or more, so as many rounds as there are bytes suffice. -/
def readFields (s : Schema α) (levels stop : Nat) :
    (rounds : Nat) → α → Bytes → Except DecodeError (α × Bytes)
  | 0, m, bs => .ok (m, bs)
  | rounds + 1, m, bs =>
    if bs.length ≤ stop then .ok (m, bs)
    else
      match s.readField levels m bs with
      | .error e => .error e
      | .ok (m, rest) => readFields s levels stop rounds m rest

/-- Merges all of `bs` into `m`, with `levels` left for nesting. -/
def mergeWithin (s : Schema α) (levels : Nat) (m : α) (bs : Bytes) : Except DecodeError α :=
  (s.readFields levels 0 bs.length m bs).map (·.1)

/-- Merges all of `bs` into `m`. -/
def merge (s : Schema α) (m : α) (bs : Bytes) : Except DecodeError α :=
  s.mergeWithin maxLevels m bs

def decode (s : Schema α) (bs : Bytes) : Except DecodeError α := s.merge s.empty bs

end Schema

/-! ## Kinds of field -/

namespace Field

variable {α : Type}

/-- Lifts a scalar reader: it has no nested fields, so a fault has no
location of its own. -/
def readScalar {β : Type} (expected : WireType) (read : Bytes → Except Fault (β × Bytes))
    (set : α → β → α) (w : WireType) (m : α) (bs : Bytes) : Except DecodeError (α × Bytes) :=
  match expectWireType expected w with
  | .error e => .error { fault := e }
  | .ok () =>
    match read bs with
    | .error e => .error { fault := e }
    | .ok (v, rest) => .ok (set m v, rest)

def readText (bs : Bytes) : Except Fault (String × Bytes) :=
  match readDelimited bs with
  | .error e => .error e
  | .ok (content, rest) =>
    match textOfBytes? content with
    | none => .error .invalidText
    | some s => .ok (s, rest)

/-- A text; the empty one is not written. -/
def text (tag : Nat) (name : String) (get : α → String) (set : α → String → α) : Field α where
  tag := tag
  name := name
  write m :=
    if get m = "" then [] else writeKey tag .lengthDelimited ++ writeDelimited (bytesOfText (get m))
  size m :=
    if get m = "" then 0
    else
      varintSize (8 * tag + 2) + varintSize (get m).utf8ByteSize + (get m).utf8ByteSize
  read _ w m bs := readScalar .lengthDelimited readText set w m bs

def writeInt32 (tag : Nat) (n : Int32) : Bytes :=
  writeKey tag .varint ++ writeVarint (varintOfInt32 n)

def sizeInt32 (tag : Nat) (n : Int32) : Nat :=
  varintSize (8 * tag) + varintSize (varintOfInt32 n)

def readInt32 (bs : Bytes) : Except Fault (Int32 × Bytes) :=
  (readVarint bs).map fun (n, rest) => (int32OfVarint n, rest)

/-- A number; zero is not written. -/
def int32 (tag : Nat) (name : String) (get : α → Int32) (set : α → Int32 → α) : Field α where
  tag := tag
  name := name
  write m := if get m = 0 then [] else writeInt32 tag (get m)
  size m := if get m = 0 then 0 else sizeInt32 tag (get m)
  read _ w m bs := readScalar .varint readInt32 set w m bs

/-- A number that is written when it is set, also when it is zero. -/
def optionalInt32 (tag : Nat) (name : String) (get : α → Option Int32)
    (set : α → Int32 → α) : Field α where
  tag := tag
  name := name
  write m := (get m).elim [] (writeInt32 tag)
  size m := (get m).elim 0 (sizeInt32 tag)
  read _ w m bs := readScalar .varint readInt32 set w m bs

def readFlag (bs : Bytes) : Except Fault (Bool × Bytes) :=
  (readVarint bs).map fun (n, rest) => (n != 0, rest)

/-- A truth value; false is not written, and every number but zero
is read as true. -/
def flag (tag : Nat) (name : String) (get : α → Bool) (set : α → Bool → α) : Field α where
  tag := tag
  name := name
  write m := if get m then writeKey tag .varint ++ [1] else []
  size m := if get m then varintSize (8 * tag) + 1 else 0
  read _ w m bs := readScalar .varint readFlag set w m bs

/-- Reads a nested message into `m`. Its length must lie within the bytes
there are, but its fields may themselves reach further, which is found out
only when they end elsewhere. -/
def readNested {β : Type} (inner : Schema β) (levels : Nat) (w : WireType) (m : β) (bs : Bytes) :
    Except DecodeError (β × Bytes) :=
  match expectWireType .lengthDelimited w with
  | .error e => .error { fault := e }
  | .ok () =>
    match levels with
    | 0 => .error { fault := .tooDeep }
    | levels + 1 =>
      match readVarint bs with
      | .error e => .error { fault := e }
      | .ok (n, rest) =>
        if rest.length < n then .error { fault := .underflow }
        else
          match inner.readFields levels (rest.length - n) rest.length m rest with
          | .error e => .error e
          | .ok (m, after) =>
            if after.length = rest.length - n then .ok (m, after)
            else .error { fault := .lengthExceeded }

/-- An optional nested message. A further value is merged into the one
there already is. -/
def nested {β : Type} (tag : Nat) (name : String) (inner : Schema β) (get : α → Option β)
    (set : α → β → α) : Field α where
  tag := tag
  name := name
  write m :=
    (get m).elim [] fun v => writeKey tag .lengthDelimited ++ writeDelimited (inner.encode v)
  size m :=
    (get m).elim 0 fun v =>
      varintSize (8 * tag + 2) + varintSize (inner.size v) + inner.size v
  read levels w m bs :=
    (readNested inner levels w ((get m).getD inner.empty) bs).map fun (v, rest) => (set m v, rest)

end Field

end DistLock.Wire

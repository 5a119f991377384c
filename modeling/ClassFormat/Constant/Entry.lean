import ClassFormat.Constant.Kind
import ClassFormat.Decoder
import ClassFormat.Emission
import ClassFormat.Text.Modified

/-!
# Constants

A constant is a tag and a payload.  Numbers are kept as they are stored: a float or a double is
its bit pattern, so that no payload is changed by reading and writing it.
-/

namespace ClassFormat

/-- A constant of the pool.  Indices refer to other constants of the same pool. -/
inductive Entry where
  | utf8 (string : ModifiedUtf8)
  | integer (value : Int32)
  | float (bits : UInt32)
  | long (value : Int64)
  | double (bits : UInt64)
  | classRef (nameIndex : UInt16)
  | stringRef (stringIndex : UInt16)
  | fieldRef (classIndex nameAndTypeIndex : UInt16)
  | methodRef (classIndex nameAndTypeIndex : UInt16)
  | interfaceMethodRef (classIndex nameAndTypeIndex : UInt16)
  | nameAndType (nameIndex descriptorIndex : UInt16)
  | methodHandle (referenceKind : UInt8) (referenceIndex : UInt16)
  | methodType (descriptorIndex : UInt16)
  | dynamic (bootstrapIndex nameAndTypeIndex : UInt16)
  | invokeDynamic (bootstrapIndex nameAndTypeIndex : UInt16)
  | moduleRef (nameIndex : UInt16)
  | packageRef (nameIndex : UInt16)
deriving DecidableEq

namespace Entry

/-- The kind of a constant. -/
def kind : Entry → Kind
  | .utf8 _ => .utf8
  | .integer _ => .integer
  | .float _ => .float
  | .long _ => .long
  | .double _ => .double
  | .classRef _ => .classRef
  | .stringRef _ => .stringRef
  | .fieldRef _ _ => .fieldRef
  | .methodRef _ _ => .methodRef
  | .interfaceMethodRef _ _ => .interfaceMethodRef
  | .nameAndType _ _ => .nameAndType
  | .methodHandle _ _ => .methodHandle
  | .methodType _ => .methodType
  | .dynamic _ _ => .dynamic
  | .invokeDynamic _ _ => .invokeDynamic
  | .moduleRef _ => .moduleRef
  | .packageRef _ => .packageRef

/-- Whether a constant takes two slots of the pool. -/
def isWide (entry : Entry) : Bool :=
  entry.kind.isWide

/-- The number of slots a constant takes. -/
def width (entry : Entry) : Nat :=
  if entry.isWide then 2 else 1

/-- The bytes of a constant behind its tag and, for a string, its length. -/
def payload : Entry → Bytes
  | .utf8 string => string.bytes
  | .integer value => Bytes.ofUInt32 value.toUInt32
  | .float bits => Bytes.ofUInt32 bits
  | .long value => Bytes.ofUInt64 value.toUInt64
  | .double bits => Bytes.ofUInt64 bits
  | .classRef index
  | .stringRef index
  | .methodType index
  | .moduleRef index
  | .packageRef index => Bytes.ofUInt16 index
  | .fieldRef first second
  | .methodRef first second
  | .interfaceMethodRef first second
  | .nameAndType first second
  | .dynamic first second
  | .invokeDynamic first second => Bytes.ofUInt16 first ++ Bytes.ofUInt16 second
  | .methodHandle referenceKind index => referenceKind :: Bytes.ofUInt16 index

/-- Constants are compared by their kinds and their payloads, numbers therefore bit by bit. -/
instance : BEq Entry where
  beq left right := left.kind == right.kind && left.payload == right.payload

/-- Read the fields of a constant of a known kind.  A string takes all the bytes. -/
def fields : Kind → Decoder Entry
  | .utf8 => fun input => .ok (.utf8 ⟨input⟩) []
  | .integer => return .integer (← Decoder.word32).toInt32
  | .float => return .float (← Decoder.word32)
  | .long => return .long (← Decoder.word64).toInt64
  | .double => return .double (← Decoder.word64)
  | .classRef => return .classRef (← Decoder.word16)
  | .stringRef => return .stringRef (← Decoder.word16)
  | .fieldRef => return .fieldRef (← Decoder.word16) (← Decoder.word16)
  | .methodRef => return .methodRef (← Decoder.word16) (← Decoder.word16)
  | .interfaceMethodRef => return .interfaceMethodRef (← Decoder.word16) (← Decoder.word16)
  | .nameAndType => return .nameAndType (← Decoder.word16) (← Decoder.word16)
  | .methodHandle => return .methodHandle (← Decoder.byte) (← Decoder.word16)
  | .methodType => return .methodType (← Decoder.word16)
  | .dynamic => return .dynamic (← Decoder.word16) (← Decoder.word16)
  | .invokeDynamic => return .invokeDynamic (← Decoder.word16) (← Decoder.word16)
  | .moduleRef => return .moduleRef (← Decoder.word16)
  | .packageRef => return .packageRef (← Decoder.word16)

/-- The constant with a given kind and payload. -/
def ofPayload (kind : Kind) (payload : Bytes) : Except DecodeError Entry :=
  match fields kind payload with
  | .ok entry [] => .ok entry
  | .ok _ (_ :: _) => .error (.malformed .longPayload)
  | .error error _ => .error error

/-- Read the length of the payload of a constant. -/
def payloadLength (kind : Kind) : Decoder Nat :=
  match kind.payloadLength? with
  | some length => return length
  | none => return (← Decoder.word16).toNat

/-- Read a constant. -/
def decoder : Decoder Entry := do
  let tag ← Decoder.byte
  match Kind.ofTag? tag with
  | none => throw (.unknownTag tag)
  | some kind =>
      let payload ← Decoder.take (← payloadLength kind)
      match ofPayload kind payload with
      | .ok entry => return entry
      | .error error => throw error

/-- Write a constant.  The tag goes out together with the length of a string, so that a string
too long for its length field writes nothing. -/
def emission (entry : Entry) : Emission :=
  match entry with
  | .utf8 string =>
      if string.bytes.length < 0x10000 then
        [.bytes (entry.kind.tag :: Bytes.ofUInt16 string.bytes.length.toUInt16),
          .bytes entry.payload]
      else [.overlong]
  | _ => [.bytes [entry.kind.tag], .bytes entry.payload]

end Entry

end ClassFormat

import ClassFormat.Text.Hex

/-!
# What can go wrong with a class file

Decoding and encoding fail for a stated cause.  The wording of every cause stands in one function
per type.
-/

namespace ClassFormat

/-- An inconsistency in the structure of a class file. -/
inductive Defect where
  /-- The constant pool count is zero. -/
  | emptyCount
  /-- A constant of two slots starts in the last slot of the constant pool. -/
  | wideOverflow
  /-- A constant has bytes left over. -/
  | longPayload
deriving DecidableEq, Repr

/-- The wording of a defect. -/
def Defect.message : Defect → String
  | .emptyCount => "The constant pool count must be at least 1"
  | .wideOverflow => "A long or double constant overflows the constant pool"
  | .longPayload => "constant payload is longer than its kind allows"

/-- The sorts of failure of a source of bytes. -/
inductive FaultKind where
  | unexpectedEof
  | interrupted
  | permissionDenied
  | invalidData
  | other
  /-- Any further sort, by its name. -/
  | named (name : String)
deriving DecidableEq, Repr

/-- How a source of bytes failed. -/
structure ReadFailure where
  kind : FaultKind
  message : String
deriving DecidableEq, Repr

/-- Why bytes are not a class file. -/
inductive DecodeError where
  /-- The first four bytes are not those of a class file. -/
  | badMagic (magic : UInt32)
  /-- The input ends before the structure it declares. -/
  | unexpectedEnd
  /-- No kind of constant has this tag. -/
  | unknownTag (tag : UInt8)
  /-- The structure is inconsistent. -/
  | malformed (defect : Defect)
  /-- This many bytes follow the class file. -/
  | trailingBytes (count : Nat)
  /-- The source of the bytes failed. -/
  | unreadable (failure : ReadFailure)
deriving DecidableEq, Repr

/-- The wording of a decoding error. -/
def DecodeError.message : DecodeError → String
  | .badMagic magic =>
      "The buffer does not contain a Java class file (magic: 0x" ++
        Text.upperHex 8 magic.toNat ++ ")"
  | .unexpectedEnd => "Unexpected end of input"
  | .unknownTag tag => s!"Unknown constant pool tag {tag.toNat}"
  | .malformed defect => "Malformed class file: " ++ defect.message
  | .trailingBytes count => s!"Unexpected {count} bytes at the end of the class file"
  | .unreadable failure => "Failed to read the class file: " ++ failure.message

/-- Why a class file has no encoding, or an encoding does not arrive. -/
inductive EncodeError where
  /-- A table or a payload is longer than its length field can say. -/
  | lengthOverflow
  /-- The buffer has no room for the next bytes. -/
  | bufferFull
deriving DecidableEq, Repr

/-- The wording of an encoding error. -/
def EncodeError.message : EncodeError → String
  | .lengthOverflow => "Length out of range: number too large to fit in target type"
  | .bufferFull => "Failed to write the class file: failed to write whole buffer"

end ClassFormat

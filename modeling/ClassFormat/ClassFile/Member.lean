import ClassFormat.AccessFlags
import ClassFormat.Decoder
import ClassFormat.Emission

/-!
# Attributes and members

An attribute is a name and a payload that is not looked into.  Fields and methods have the same
form and stand in two tables of the class.
-/

namespace ClassFormat

/-- A named payload. -/
structure Attribute where
  /-- The index of the string constant with the name. -/
  nameIndex : UInt16
  payload : Bytes
deriving DecidableEq

namespace Attribute

/-- Read an attribute. -/
def decoder : Decoder Attribute := do
  let nameIndex ← Decoder.word16
  let length ← Decoder.word32
  let payload ← Decoder.take length.toNat
  return { nameIndex, payload }

/-- Write an attribute. -/
def emission (item : Attribute) : Emission :=
  Emission.word16 item.nameIndex ++ Emission.length32 item.payload.length ++
    [.bytes item.payload]

end Attribute

/-- A field or a method. -/
structure Member where
  accessFlags : UInt16
  /-- The index of the string constant with the name. -/
  nameIndex : UInt16
  /-- The index of the string constant with the descriptor. -/
  descriptorIndex : UInt16
  attributes : List Attribute
deriving DecidableEq

namespace Member

/-- Read a member. -/
def decoder : Decoder Member := do
  let accessFlags ← Decoder.word16
  let nameIndex ← Decoder.word16
  let descriptorIndex ← Decoder.word16
  let attributes ← Decoder.table Attribute.decoder
  return { accessFlags, nameIndex, descriptorIndex, attributes }

/-- Write a member. -/
def emission (member : Member) : Emission :=
  Emission.word16 member.accessFlags ++ Emission.word16 member.nameIndex ++
    Emission.word16 member.descriptorIndex ++
    Emission.table Attribute.emission member.attributes

end Member

/-- The two tables of members. -/
inductive MemberTable where
  | fields
  | methods
deriving DecidableEq, Repr

namespace MemberTable

/-- The name of a table. -/
def name : MemberTable → String
  | .fields => "fields"
  | .methods => "methods"

/-- What the access flags of the members of a table mean. -/
def context : MemberTable → FlagContext
  | .fields => .field
  | .methods => .method

end MemberTable

end ClassFormat

import ClassFormat.ClassFile.Member
import ClassFormat.ClassFile.Version
import ClassFormat.Constant.Pool

/-!
# Class files

A class file is a constant pool and tables that refer to it by index.  Everything is kept exactly
as it is stored, so nothing is lost between `ClassFile.decoder` and `ClassFile.emission`, and no
index is checked.
-/

namespace ClassFormat

/-- The content of a class file. -/
structure ClassFile where
  minorVersion : UInt16
  majorVersion : UInt16
  pool : ConstantPool
  accessFlags : UInt16
  /-- The index of the class constant of this class. -/
  thisClass : UInt16
  /-- The index of the class constant of the super class, or zero. -/
  superClass : UInt16
  /-- The indices of the class constants of the super interfaces. -/
  interfaces : List UInt16
  fields : List Member
  methods : List Member
  attributes : List Attribute
deriving DecidableEq

/-- What to do with bytes behind a class file. -/
inductive TrailingData where
  | reject
  | ignore
deriving DecidableEq, Repr

namespace ClassFile

/-- The number every class file starts with. -/
def magic : UInt32 :=
  0xCAFEBABE

/-- The version of the format. -/
def version (file : ClassFile) : Version :=
  ⟨file.majorVersion, file.minorVersion⟩

/-- A table of members. -/
def table (file : ClassFile) : MemberTable → List Member
  | .fields => file.fields
  | .methods => file.methods

/-- Change a table of members. -/
def withTable (file : ClassFile) : MemberTable → List Member → ClassFile
  | .fields, members => { file with fields := members }
  | .methods, members => { file with methods := members }

/-- The part in front of the constants. -/
structure Prologue where
  minorVersion : UInt16
  majorVersion : UInt16
  poolCount : UInt16

/-- Read the part in front of the constants. -/
def Prologue.decoder : Decoder Prologue := do
  let number ← Decoder.word32
  if number ≠ magic then
    throw (.badMagic number)
  let minorVersion ← Decoder.word16
  let majorVersion ← Decoder.word16
  let poolCount ← Decoder.word16
  return { minorVersion, majorVersion, poolCount }

/-- The part between the constants and the members. -/
structure Heading where
  accessFlags : UInt16
  thisClass : UInt16
  superClass : UInt16
  interfaces : List UInt16

/-- Read the part between the constants and the members. -/
def Heading.decoder : Decoder Heading := do
  let accessFlags ← Decoder.word16
  let thisClass ← Decoder.word16
  let superClass ← Decoder.word16
  let interfaces ← Decoder.table Decoder.word16
  return { accessFlags, thisClass, superClass, interfaces }

/-- Read a class file and leave what follows it. -/
def decoder : Decoder ClassFile := do
  let prologue ← Prologue.decoder
  let pool ← ConstantPool.decoder prologue.poolCount
  let heading ← Heading.decoder
  let fields ← Decoder.table Member.decoder
  let methods ← Decoder.table Member.decoder
  let attributes ← Decoder.table Attribute.decoder
  return {
    minorVersion := prologue.minorVersion
    majorVersion := prologue.majorVersion
    pool
    accessFlags := heading.accessFlags
    thisClass := heading.thisClass
    superClass := heading.superClass
    interfaces := heading.interfaces
    fields
    methods
    attributes }

/-- The class file of a byte string. -/
def decode (trailing : TrailingData) (bytes : Bytes) : Except DecodeError ClassFile :=
  match decoder bytes with
  | .error error _ => .error error
  | .ok file [] => .ok file
  | .ok file rest =>
      match trailing with
      | .reject => .error (.trailingBytes rest.length)
      | .ignore => .ok file

/-- Write a class file. -/
def emission (file : ClassFile) : Emission :=
  .bytes (Bytes.ofUInt32 magic) :: Emission.word16 file.minorVersion ++
    Emission.word16 file.majorVersion ++ file.pool.emission ++
    Emission.word16 file.accessFlags ++ Emission.word16 file.thisClass ++
    Emission.word16 file.superClass ++ Emission.table Emission.word16 file.interfaces ++
    Emission.table Member.emission file.fields ++
    Emission.table Member.emission file.methods ++
    Emission.table Attribute.emission file.attributes

/-- The bytes of a class file. -/
def encode (file : ClassFile) : Except EncodeError Bytes :=
  let written := file.emission.toGrowing
  written.result.map fun _ => written.bytes

end ClassFile

end ClassFormat

/-!
# Kinds of constants

Every constant starts with a tag that says its kind.  All kinds but strings have a payload of
fixed length, and two kinds take two slots of the constant pool.
-/

namespace ClassFormat

/-- The kinds of constants. -/
inductive Kind where
  | utf8
  | integer
  | float
  | long
  | double
  | classRef
  | stringRef
  | fieldRef
  | methodRef
  | interfaceMethodRef
  | nameAndType
  | methodHandle
  | methodType
  | dynamic
  | invokeDynamic
  | moduleRef
  | packageRef
deriving DecidableEq, Repr

namespace Kind

/-- All kinds, in the order of their tags. -/
def all : List Kind :=
  [.utf8, .integer, .float, .long, .double, .classRef, .stringRef, .fieldRef, .methodRef,
    .interfaceMethodRef, .nameAndType, .methodHandle, .methodType, .dynamic, .invokeDynamic,
    .moduleRef, .packageRef]

/-- The tag of a kind. -/
def tag : Kind → UInt8
  | .utf8 => 1
  | .integer => 3
  | .float => 4
  | .long => 5
  | .double => 6
  | .classRef => 7
  | .stringRef => 8
  | .fieldRef => 9
  | .methodRef => 10
  | .interfaceMethodRef => 11
  | .nameAndType => 12
  | .methodHandle => 15
  | .methodType => 16
  | .dynamic => 17
  | .invokeDynamic => 18
  | .moduleRef => 19
  | .packageRef => 20

/-- The kind with a given tag. -/
def ofTag? (tag : UInt8) : Option Kind :=
  all.find? fun kind => kind.tag == tag

/-- The number of bytes behind the tag.  A string says its own length. -/
def payloadLength? : Kind → Option Nat
  | .utf8 => none
  | .integer | .float => some 4
  | .long | .double => some 8
  | .classRef | .stringRef | .methodType | .moduleRef | .packageRef => some 2
  | .fieldRef | .methodRef | .interfaceMethodRef | .nameAndType => some 4
  | .dynamic | .invokeDynamic => some 4
  | .methodHandle => some 3

/-- Whether a constant takes two slots of the pool. -/
def isWide : Kind → Bool
  | .long | .double => true
  | _ => false

/-- The short name of a kind. -/
def label : Kind → String
  | .utf8 => "utf8"
  | .integer => "integer"
  | .float => "float"
  | .long => "long"
  | .double => "double"
  | .classRef => "class"
  | .stringRef => "string"
  | .fieldRef => "fieldref"
  | .methodRef => "methodref"
  | .interfaceMethodRef => "interfacemethodref"
  | .nameAndType => "nameandtype"
  | .methodHandle => "methodhandle"
  | .methodType => "methodtype"
  | .dynamic => "dynamic"
  | .invokeDynamic => "invokedynamic"
  | .moduleRef => "module"
  | .packageRef => "package"

/-- The name of a kind in messages. -/
def constantName : Kind → String
  | .utf8 => "CONSTANT_Utf8"
  | .integer => "CONSTANT_Integer"
  | .float => "CONSTANT_Float"
  | .long => "CONSTANT_Long"
  | .double => "CONSTANT_Double"
  | .classRef => "CONSTANT_Class"
  | .stringRef => "CONSTANT_String"
  | .fieldRef => "CONSTANT_Fieldref"
  | .methodRef => "CONSTANT_Methodref"
  | .interfaceMethodRef => "CONSTANT_InterfaceMethodref"
  | .nameAndType => "CONSTANT_NameAndType"
  | .methodHandle => "CONSTANT_MethodHandle"
  | .methodType => "CONSTANT_MethodType"
  | .dynamic => "CONSTANT_Dynamic"
  | .invokeDynamic => "CONSTANT_InvokeDynamic"
  | .moduleRef => "CONSTANT_Module"
  | .packageRef => "CONSTANT_Package"

theorem mem_all (kind : Kind) : kind ∈ all := by
  cases kind <;> decide

/-- A tag names its kind. -/
@[simp]
theorem ofTag?_tag (kind : Kind) : ofTag? kind.tag = some kind := by
  cases kind <;> rfl

/-- A tag is known exactly if it is the tag of the kind it names. -/
theorem ofTag?_eq_some_iff {tag : UInt8} {kind : Kind} :
    ofTag? tag = some kind ↔ tag = kind.tag := by
  constructor
  · intro found
    have same := List.find?_some found
    exact (eq_of_beq same).symm
  · rintro rfl
    exact ofTag?_tag kind

end Kind

end ClassFormat

import ClassFormat.ClassFile.Basic
import ClassFormat.Handle

/-!
# Events

What happens to open class files is reported as events.  An event carries data; its level, its
message and the texts of its fields follow from that.
-/

namespace ClassFormat

/-- How important an event is. -/
inductive Level where
  | trace
  | debug
deriving DecidableEq, Repr

/-- Something that happened to a class file. -/
inductive Event where
  /-- The count of the constant pool has been read. -/
  | readingPool (count : UInt16)
  /-- Everything in front of the fields has been read. -/
  | readingFields
  /-- Everything in front of the methods has been read. -/
  | readingMethods
  /-- The input is no class file. -/
  | rejected (error : DecodeError)
  /-- The input has bytes behind the class file and is refused for it. -/
  | rejectedTrailing (count : Nat)
  /-- The input has bytes behind the class file, which are skipped. -/
  | ignoredTrailing (count : Nat)
  /-- A class file has been opened. -/
  | decoded (identity : Identity) (version : Version) (constants fields methods : Nat)
  /-- A class file is about to be written. -/
  | encoding (identity : Identity)
  | setThisClass (identity : Identity) (before after : UInt16)
  | setSuperClass (identity : Identity) (before after : UInt16)
  | setInterfaces (identity : Identity) (after : List UInt16)
  | setMemberName (identity : Identity) (table : MemberTable) (position : Nat)
      (before after : UInt16)
  | setMemberDescriptor (identity : Identity) (table : MemberTable) (position : Nat)
      (before after : UInt16)
  /-- The text of a string constant has been replaced. -/
  | replacedUtf8 (identity : Identity) (index : UInt16) (text : String)
  /-- A string constant has been appended. -/
  | addedUtf8 (identity : Identity) (index : UInt16) (text : String)
  /-- A class constant has been appended. -/
  | addedClass (identity : Identity) (index nameIndex : UInt16)
  /-- The access flags of the class are about to be edited. -/
  | editingClassFlags (identity : Identity)
  /-- The access flags of a member are about to be edited. -/
  | editingMemberFlags (identity : Identity) (table : MemberTable) (position : Nat)
  /-- The access flags being edited have changed. -/
  | updatedFlags (before after : UInt16)
deriving DecidableEq

namespace Event

/-- How important an event is. -/
def level : Event → Level
  | .readingPool _ | .readingFields | .readingMethods | .encoding _ | .updatedFlags _ _ => .trace
  | _ => .debug

/-- The message of an event. -/
def message : Event → String
  | .readingPool _ => "reading constant pool"
  | .readingFields => "reading fields"
  | .readingMethods => "reading methods"
  | .rejected _ => "rejecting class file"
  | .rejectedTrailing _ => "rejecting class file with trailing data"
  | .ignoredTrailing _ => "ignoring trailing data"
  | .decoded .. => "decoded class file"
  | .encoding _ => "encoding class file"
  | .setThisClass .. => "setting this class"
  | .setSuperClass .. => "setting super class"
  | .setInterfaces .. => "setting interfaces"
  | .setMemberName .. => "setting member name"
  | .setMemberDescriptor .. => "setting member descriptor"
  | .replacedUtf8 .. => "rewriting string constant"
  | .addedUtf8 .. => "added string constant"
  | .addedClass .. => "added class constant"
  | .editingClassFlags _ => "editing class access flags"
  | .editingMemberFlags .. => "editing member access flags"
  | .updatedFlags .. => "updating access flags"

/-- The text of a list of indices. -/
def indexList (indices : List UInt16) : String :=
  "[" ++ ", ".intercalate (indices.map fun index => toString index.toNat) ++ "]"

/-- The fields of a change of an index. -/
def change (before after : UInt16) : List (String × String) :=
  [("from", toString before.toNat), ("to", toString after.toNat)]

/-- The fields that say which member of which class file. -/
def place (identity : Identity) (table : MemberTable) (position : Nat) : List (String × String) :=
  [("id", identity.display), ("table", table.name), ("position", toString position)]

/-- The named fields of an event, in order. -/
def fields : Event → List (String × String)
  | .readingPool count => [("constant_pool_count", toString count.toNat)]
  | .readingFields | .readingMethods => []
  | .rejected error => [("err", error.message)]
  | .rejectedTrailing count | .ignoredTrailing count => [("trailing", toString count)]
  | .decoded identity version constants fields methods =>
      [("id", identity.display), ("major", toString version.major.toNat),
        ("minor", toString version.minor.toNat), ("constants", toString constants),
        ("fields", toString fields), ("methods", toString methods)]
  | .encoding identity | .editingClassFlags identity => [("id", identity.display)]
  | .setThisClass identity before after | .setSuperClass identity before after =>
      ("id", identity.display) :: change before after
  | .setInterfaces identity after =>
      [("id", identity.display), ("interfaces", indexList after)]
  | .setMemberName identity table position before after
  | .setMemberDescriptor identity table position before after =>
      place identity table position ++ change before after
  | .replacedUtf8 identity index text | .addedUtf8 identity index text =>
      [("id", identity.display), ("index", toString index.toNat), ("text", text)]
  | .addedClass identity index nameIndex =>
      [("id", identity.display), ("index", toString index.toNat),
        ("name_index", toString nameIndex.toNat)]
  | .editingMemberFlags identity table position => place identity table position
  | .updatedFlags before after =>
      [("before", toString before.toNat), ("after", toString after.toNat)]

end Event

end ClassFormat

import ClassFormat.ClassFile.Basic
import ClassFormat.Misuse

/-!
# Following indices

Names and descriptors are looked up in the constant pool each time they are asked for.  An index
that does not lead to a constant of the expected kind is a misuse.
-/

namespace ClassFormat

namespace Entry

/-- The string of a string constant. -/
def utf8? : Entry → Option ModifiedUtf8
  | .utf8 string => some string
  | _ => none

/-- The name index of a class constant. -/
def classNameIndex? : Entry → Option UInt16
  | .classRef nameIndex => some nameIndex
  | _ => none

end Entry

namespace ConstantPool

/-- The string at an index. -/
def utf8 (pool : ConstantPool) (index : UInt16) : Except Misuse ModifiedUtf8 :=
  match pool.get? index with
  | none => .error (.missingConstant index .utf8)
  | some entry =>
      match entry.utf8? with
      | some string => .ok string
      | none => .error (.wrongKind index entry.kind .utf8)

/-- The name index of the class at an index. -/
def classNameIndex (pool : ConstantPool) (index : UInt16) : Except Misuse UInt16 :=
  match pool.get? index with
  | none => .error (.missingConstant index .classRef)
  | some entry =>
      match entry.classNameIndex? with
      | some nameIndex => .ok nameIndex
      | none => .error (.wrongKind index entry.kind .classRef)

/-- The text of the string at an index. -/
def text (pool : ConstantPool) (index : UInt16) : Except Misuse String :=
  (pool.utf8 index).map ModifiedUtf8.text

/-- The name of the class at an index. -/
def className (pool : ConstantPool) (index : UInt16) : Except Misuse String :=
  (pool.classNameIndex index).bind pool.text

/-- Whether an index addresses a string. -/
def isUtf8 (pool : ConstantPool) (index : UInt16) : Bool :=
  ((pool.get? index).bind Entry.utf8?).isSome

/-- Whether an index addresses a class. -/
def isClass (pool : ConstantPool) (index : UInt16) : Bool :=
  ((pool.get? index).bind Entry.classNameIndex?).isSome

end ConstantPool

/-- The position of the first element that passes a test which may fail, counted from
`position`. -/
def firstMatch {α ε : Type} (test : α → Except ε Bool) (position : Nat) :
    List α → Except ε (Option Nat)
  | [] => .ok none
  | item :: items =>
      match test item with
      | .error error => .error error
      | .ok true => .ok (some position)
      | .ok false => firstMatch test (position + 1) items

/-- Whether a member has a given name and descriptor.  The descriptor is followed only if the name
is right. -/
def Member.isNamed (pool : ConstantPool) (name descriptor : String) (member : Member) :
    Except Misuse Bool :=
  (pool.text member.nameIndex).bind fun actual =>
    if actual = name then (pool.text member.descriptorIndex).map (· == descriptor)
    else .ok false

/-- Whether an attribute has a given name. -/
def Attribute.isNamed (pool : ConstantPool) (name : String) (item : Attribute) :
    Except Misuse Bool :=
  (pool.text item.nameIndex).map (· == name)

namespace ClassFile

/-- The position of the first member with a given name and descriptor. -/
def findMember (file : ClassFile) (table : MemberTable) (name descriptor : String) :
    Except Misuse (Option Nat) :=
  firstMatch (Member.isNamed file.pool name descriptor) 0 (file.table table)

/-- The first attribute with a given name. -/
def findAttribute (file : ClassFile) (attributes : List Attribute) (name : String) :
    Except Misuse (Option Attribute) :=
  (firstMatch (Attribute.isNamed file.pool name) 0 attributes).map fun position? =>
    position?.bind fun position => attributes[position]?

end ClassFile

end ClassFormat

import ClassFormat.ClassFile.Resolve

/-!
# Summaries

The summary of a class file lists its version, flags, names, members and attributes, one line
each.  An index that leads nowhere is an error that names the index and what was expected there;
the first one in the order of the lines is reported.
-/

namespace ClassFormat

/-- An index that does not lead to a constant of the expected kind. -/
structure Unresolved where
  index : UInt16
  expected : Kind
deriving DecidableEq, Repr

/-- The wording of the error. -/
def Unresolved.message (error : Unresolved) : String :=
  s!"constant #{error.index.toNat} is not a {error.expected.constantName}"

namespace Summary

/-- A text, or a mark for an empty one. -/
def orNone (text : String) : String :=
  if text.isEmpty then "(none)" else text

/-- The text of the string at an index. -/
def utf8 (pool : ConstantPool) (index : UInt16) : Except Unresolved String :=
  match (pool.get? index).bind Entry.utf8? with
  | some string => .ok string.text
  | none => .error ⟨index, .utf8⟩

/-- The name of the class at an index. -/
def className (pool : ConstantPool) (index : UInt16) : Except Unresolved String :=
  match (pool.get? index).bind Entry.classNameIndex? with
  | some nameIndex => utf8 pool nameIndex
  | none => .error ⟨index, .classRef⟩

/-- A list of names, or a mark for an empty one. -/
def nameList (names : List String) : String :=
  orNone (", ".intercalate names)

/-- The names of attributes. -/
def attributeNames (pool : ConstantPool) (attributes : List Attribute) :
    Except Unresolved String := do
  let names ← attributes.mapM fun item => utf8 pool item.nameIndex
  return nameList names

/-- The line of a member. -/
def memberLine (pool : ConstantPool) (context : FlagContext) (member : Member) :
    Except Unresolved String := do
  let name ← utf8 pool member.nameIndex
  let descriptor ← utf8 pool member.descriptorIndex
  let flags := orNone (AccessFlags.display context member.accessFlags)
  let attributes ← attributeNames pool member.attributes
  return s!"    {name}: {descriptor} [{flags}] attributes: {attributes}\n"

/-- The lines of a table of members. -/
def memberLines (pool : ConstantPool) (table : MemberTable) (members : List Member) :
    Except Unresolved String :=
  if members.isEmpty then return s!"  {table.name}: (none)\n"
  else do
    let lines ← members.mapM (memberLine pool table.context)
    return s!"  {table.name}:\n" ++ String.join lines

end Summary

open Summary in
/-- The summary of a class file. -/
def ClassFile.summary (file : ClassFile) : Except Unresolved String := do
  let pool := file.pool
  let flags := orNone (AccessFlags.display .classFile file.accessFlags)
  let thisClass ← className pool file.thisClass
  let superClass ← if file.superClass = 0 then pure "" else className pool file.superClass
  let interfaces ← file.interfaces.mapM (className pool)
  let fields ← memberLines pool .fields file.fields
  let methods ← memberLines pool .methods file.methods
  let attributes ← attributeNames pool file.attributes
  return s!"  version: {file.version.display}\n" ++ s!"  flags: {flags}\n" ++
    s!"  this class: {thisClass}\n" ++ s!"  super class: {orNone superClass}\n" ++
    s!"  interfaces: {nameList interfaces}\n" ++ fields ++ methods ++
    s!"  attributes: {attributes}\n"

end ClassFormat

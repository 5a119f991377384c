import ClassFormat.ClassFile.Resolve
import ClassFormat.Document.Basic

/-!
# Edits

A document is edited through handles.  Every handle is checked before anything changes: first that
it was taken from this document, then that it leads to a constant or a member of the right sort.
An edit that is refused changes nothing.

An edit reports what it did as events.  The flags of a member are announced before the handle is
checked.
-/

namespace ClassFormat

/-- Why an edit was refused. -/
inductive Refusal where
  | misuse (misuse : Misuse)
  | poolFull (cause : PoolFull)
deriving DecidableEq, Repr

/-- What an edit did. -/
structure Edited (α : Type) where
  result : Except Refusal α
  document : Document
  events : List Event

namespace Document

/-- Check that something belongs to this document. -/
def checkOwner (document : Document) (owner : Identity) : Except Misuse Unit :=
  if owner = document.identity then .ok () else .error (.foreign owner document.identity)

/-- The index of a class handle that passes the checks. -/
def checkClass (document : Document) (handle : ClassHandle) : Except Misuse UInt16 := do
  document.checkOwner handle.owner
  let _ ← document.file.pool.classNameIndex handle.index
  return handle.index

/-- The index of a string handle that passes the checks. -/
def checkUtf8 (document : Document) (handle : Utf8Handle) : Except Misuse UInt16 := do
  document.checkOwner handle.owner
  let _ ← document.file.pool.utf8 handle.index
  return handle.index

/-- The member of a handle that passes the checks. -/
def checkMember (document : Document) (handle : MemberHandle) : Except Misuse Member := do
  document.checkOwner handle.owner
  match (document.file.table handle.table)[handle.position]? with
  | some member => return member
  | none => throw (.missingMember handle.table handle.position document.identity)

/-- The index of a string handle and the member it is for, checked in this order. -/
def checkNaming (document : Document) (handle : MemberHandle) (string : Utf8Handle) :
    Except Misuse (UInt16 × Member) := do
  let index ← document.checkUtf8 string
  let member ← document.checkMember handle
  return (index, member)

/-- Put a member in the place of the one at a position. -/
def setMember (document : Document) (handle : MemberHandle) (member : Member) : Document :=
  let members := (document.file.table handle.table).set handle.position member
  { document with file := document.file.withTable handle.table members }

/-- An edit that is refused. -/
def refuse {α : Type} (document : Document) (misuse : Misuse) : Edited α :=
  ⟨.error (.misuse misuse), document, []⟩

/-- Make a class the one that the class file defines. -/
def setThisClass (document : Document) (handle : ClassHandle) : Edited Unit :=
  match document.checkClass handle with
  | .error misuse => document.refuse misuse
  | .ok index =>
      ⟨.ok (), { document with file.thisClass := index },
        [.setThisClass document.identity document.file.thisClass index]⟩

/-- Make a class the super class, or remove the super class. -/
def setSuperClass (document : Document) (handle? : Option ClassHandle) : Edited Unit :=
  match handle?.elim (.ok 0) document.checkClass with
  | .error misuse => document.refuse misuse
  | .ok index =>
      ⟨.ok (), { document with file.superClass := index },
        [.setSuperClass document.identity document.file.superClass index]⟩

/-- Replace the super interfaces. -/
def setInterfaces (document : Document) (handles : List ClassHandle) : Edited Unit :=
  match handles.mapM document.checkClass with
  | .error misuse => document.refuse misuse
  | .ok indices =>
      ⟨.ok (), { document with file.interfaces := indices },
        [.setInterfaces document.identity indices]⟩

/-- Point the name of a member to a string. -/
def setMemberName (document : Document) (handle : MemberHandle) (name : Utf8Handle) :
    Edited Unit :=
  match document.checkNaming handle name with
  | .error misuse => document.refuse misuse
  | .ok (index, member) =>
      ⟨.ok (), document.setMember handle { member with nameIndex := index },
        [.setMemberName document.identity handle.table handle.position member.nameIndex index]⟩

/-- Point the descriptor of a member to a string. -/
def setMemberDescriptor (document : Document) (handle : MemberHandle) (descriptor : Utf8Handle) :
    Edited Unit :=
  match document.checkNaming handle descriptor with
  | .error misuse => document.refuse misuse
  | .ok (index, member) =>
      ⟨.ok (), document.setMember handle { member with descriptorIndex := index },
        [.setMemberDescriptor document.identity handle.table handle.position
          member.descriptorIndex index]⟩

/-- Replace the text of a string constant.  Everything that refers to it sees the new text. -/
def setUtf8 (document : Document) (handle : Utf8Handle) (text : String) : Edited Unit :=
  match document.checkUtf8 handle with
  | .error misuse => document.refuse misuse
  | .ok index =>
      ⟨.ok (),
        { document with file.pool := document.file.pool.set index (.utf8 (.ofString text)) },
        [.replacedUtf8 document.identity index text]⟩

/-- The index of a constant, which is appended if it is not there yet. -/
def findOrPush (document : Document) (found? : Option UInt16) (entry : Entry)
    (added : UInt16 → Event) : Edited UInt16 :=
  match found? with
  | some index => ⟨.ok index, document, []⟩
  | none =>
      match document.file.pool.push entry with
      | .error cause => ⟨.error (.poolFull cause), document, []⟩
      | .ok (index, pool) =>
          ⟨.ok index, { document with file.pool := pool }, [added index]⟩

/-- A string constant with a given text, appended if there is none yet. -/
def addUtf8 (document : Document) (text : String) : Edited Utf8Handle :=
  let edited :=
    document.findOrPush (document.file.pool.findUtf8? text) (.utf8 (.ofString text))
      fun index => .addedUtf8 document.identity index text
  { edited with result := edited.result.map fun index => ⟨document.identity, index⟩ }

/-- A class constant with a given name, appended if there is none yet. -/
def addClass (document : Document) (name : Utf8Handle) : Edited ClassHandle :=
  match document.checkUtf8 name with
  | .error misuse => document.refuse misuse
  | .ok nameIndex =>
      let edited :=
        document.findOrPush (document.file.pool.findClass? nameIndex) (.classRef nameIndex)
          fun index => .addedClass document.identity index nameIndex
      { edited with result := edited.result.map fun index => ⟨document.identity, index⟩ }

/-- The events of a list of steps on a mask. -/
def flagEvents (bits : UInt16) (steps : List FlagStep) : List Event :=
  (FlagStep.updates bits steps).map fun (before, after) => .updatedFlags before after

/-- Edit the access flags of the class. -/
def editClassFlags (document : Document) (steps : List FlagStep) : Edited (List FlagReport) :=
  let bits := document.file.accessFlags
  ⟨.ok (FlagStep.reports bits steps),
    { document with file.accessFlags := FlagStep.applyAll bits steps },
    .editingClassFlags document.identity :: flagEvents bits steps⟩

/-- Edit the access flags of a member. -/
def editMemberFlags (document : Document) (handle : MemberHandle) (steps : List FlagStep) :
    Edited (List FlagReport) :=
  let announced := Event.editingMemberFlags document.identity handle.table handle.position
  match document.checkMember handle with
  | .error misuse => ⟨.error (.misuse misuse), document, [announced]⟩
  | .ok member =>
      let bits := member.accessFlags
      ⟨.ok (FlagStep.reports bits steps),
        document.setMember handle { member with accessFlags := FlagStep.applyAll bits steps },
        announced :: flagEvents bits steps⟩

end Document

/-- An edit of a document. -/
inductive Edit where
  | setThisClass (handle : ClassHandle)
  | setSuperClass (handle? : Option ClassHandle)
  | setInterfaces (handles : List ClassHandle)
  | setMemberName (member : MemberHandle) (name : Utf8Handle)
  | setMemberDescriptor (member : MemberHandle) (descriptor : Utf8Handle)
  | setUtf8 (handle : Utf8Handle) (text : String)
  | addUtf8 (text : String)
  | addClass (name : Utf8Handle)
  | classFlags (steps : List FlagStep)
  | memberFlags (member : MemberHandle) (steps : List FlagStep)

/-- What an edit gives back. -/
inductive EditAnswer where
  | done
  | handle (handle : Handle)
  | flags (context : FlagContext) (reports : List FlagReport)

/-- Change what an edit gives back. -/
def Edited.map {α β : Type} (f : α → β) (edited : Edited α) : Edited β :=
  { edited with result := edited.result.map f }

namespace Document

/-- Perform an edit. -/
def perform (document : Document) : Edit → Edited EditAnswer
  | .setThisClass handle => (document.setThisClass handle).map fun _ => .done
  | .setSuperClass handle? => (document.setSuperClass handle?).map fun _ => .done
  | .setInterfaces handles => (document.setInterfaces handles).map fun _ => .done
  | .setMemberName member name => (document.setMemberName member name).map fun _ => .done
  | .setMemberDescriptor member descriptor =>
      (document.setMemberDescriptor member descriptor).map fun _ => .done
  | .setUtf8 handle text => (document.setUtf8 handle text).map fun _ => .done
  | .addUtf8 text => (document.addUtf8 text).map fun handle => .handle (.utf8 handle)
  | .addClass name => (document.addClass name).map fun handle => .handle (.classRef handle)
  | .classFlags steps => (document.editClassFlags steps).map (.flags .classFile)
  | .memberFlags member steps =>
      (document.editMemberFlags member steps).map (.flags member.table.context)

end Document

end ClassFormat

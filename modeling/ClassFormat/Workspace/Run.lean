import ClassFormat.Workspace.Command

/-!
# Running commands

A workspace holds open class files and handles by name, and the first identity that is unused.  A
command that fails stores nothing under a name.

A command looks up its handles first, in the order in which it names them, and then its class
file.
-/

namespace ClassFormat

/-- Open class files and handles. -/
structure Workspace where
  /-- The first unused identity. -/
  next : Identity
  documents : List (String × Document)
  handles : List (String × Handle)

/-- Put a value under a name, in the place of the one that has the name. -/
def store {α : Type} (name : String) (value : α) (entries : List (String × α)) :
    List (String × α) :=
  (name, value) :: entries.filter (·.1 != name)

namespace Workspace

/-- The workspace without class files. -/
def empty : Workspace :=
  { next := ⟨0⟩, documents := [], handles := [] }

/-- The class file with a name. -/
def document (workspace : Workspace) (name : String) : Except Failure Document :=
  match workspace.documents.lookup name with
  | some document => .ok document
  | none => .error .unknownDocument

/-- The handle with a name. -/
def handle (workspace : Workspace) (name : String) : Except Failure Handle :=
  match workspace.handles.lookup name with
  | some handle => .ok handle
  | none => .error .unknownHandle

/-- The class handle with a name. -/
def classHandle (workspace : Workspace) (name : String) : Except Failure ClassHandle :=
  match workspace.handle name with
  | .ok (.classRef handle) => .ok handle
  | _ => .error .unknownHandle

/-- The string handle with a name. -/
def utf8Handle (workspace : Workspace) (name : String) : Except Failure Utf8Handle :=
  match workspace.handle name with
  | .ok (.utf8 handle) => .ok handle
  | _ => .error .unknownHandle

/-- The member handle with a name. -/
def memberHandle (workspace : Workspace) (name : String) : Except Failure MemberHandle :=
  match workspace.handle name with
  | .ok (.member handle) => .ok handle
  | _ => .error .unknownHandle

/-- Store a class file. -/
def storeDocument (workspace : Workspace) (name : String) (document : Document) : Workspace :=
  { workspace with documents := store name document workspace.documents }

/-- Store a handle. -/
def storeHandle (workspace : Workspace) (name : String) (handle : Handle) : Workspace :=
  { workspace with handles := store name handle workspace.handles }

/-- Look up the handles of an edit. -/
def resolveEdit (workspace : Workspace) : EditRequest → Except Failure Edit
  | .setThisClass handle => return .setThisClass (← workspace.classHandle handle)
  | .setSuperClass none => return .setSuperClass none
  | .setSuperClass (some handle) => return .setSuperClass (some (← workspace.classHandle handle))
  | .setInterfaces handles times => do
      let found ← handles.mapM workspace.classHandle
      return .setInterfaces (List.replicate times found).flatten
  | .setMemberName member handle =>
      return .setMemberName (← workspace.memberHandle member) (← workspace.utf8Handle handle)
  | .setMemberDescriptor member handle =>
      return .setMemberDescriptor (← workspace.memberHandle member)
        (← workspace.utf8Handle handle)
  | .setUtf8 handle text => return .setUtf8 (← workspace.utf8Handle handle) text
  | .addUtf8 text => return .addUtf8 text
  | .addClass handle => return .addClass (← workspace.utf8Handle handle)
  | .classFlags steps => return .classFlags (steps.map (·.resolve .classFile))
  | .memberFlags handle steps => do
      let member ← workspace.memberHandle handle
      return .memberFlags member (steps.map (·.resolve member.table.context))

end Workspace

namespace Document

/-- A class handle of this document. -/
def classHandle (document : Document) (index : UInt16) : Handle :=
  .classRef ⟨document.identity, index⟩

/-- A string handle of this document. -/
def utf8Handle (document : Document) (index : UInt16) : Handle :=
  .utf8 ⟨document.identity, index⟩

/-- Take a handle.  Only the sources that address a constant check that it is there. -/
def take? (document : Document) : HandleSource → Option Handle
  | .thisClass => some (document.classHandle document.file.thisClass)
  | .superClass =>
      if document.file.superClass = 0 then none
      else some (document.classHandle document.file.superClass)
  | .interface position => document.file.interfaces[position]?.map document.classHandle
  | .classAt index =>
      if document.file.pool.isClass index then some (document.classHandle index) else none
  | .utf8At index =>
      if document.file.pool.isUtf8 index then some (document.utf8Handle index) else none
  | .member table position =>
      if position < (document.file.table table).length then
        some (.member ⟨document.identity, table, position⟩)
      else none
  | .memberName table position =>
      (document.file.table table)[position]?.map fun member =>
        document.utf8Handle member.nameIndex
  | .memberDescriptor table position =>
      (document.file.table table)[position]?.map fun member =>
        document.utf8Handle member.descriptorIndex
  | .attributeName position =>
      document.file.attributes[position]?.map fun item => document.utf8Handle item.nameIndex

/-- Attach a class handle to this document. -/
def classIndex (document : Document) (handle : ClassHandle) : Except Misuse UInt16 :=
  (document.checkOwner handle.owner).map fun _ => handle.index

/-- Attach a string handle to this document. -/
def utf8Index (document : Document) (handle : Utf8Handle) : Except Misuse UInt16 :=
  (document.checkOwner handle.owner).map fun _ => handle.index

end Document

namespace Workspace

/-- The handle of a question that has one. -/
def queryHandle (workspace : Workspace) : Query → Except Failure (Option Handle)
  | .classInfo handle => return some (.classRef (← workspace.classHandle handle))
  | .utf8Info handle => return some (.utf8 (← workspace.utf8Handle handle))
  | .member handle => return some (.member (← workspace.memberHandle handle))
  | _ => return none

/-- The answer about a handle. -/
def describe (document : Document) : Handle → Except Misuse Answer
  | .classRef handle => do
      let index ← document.classIndex handle
      let pool := document.file.pool
      return .classInfo index (pool.className index) (pool.classNameIndex index)
  | .utf8 handle => do
      let index ← document.utf8Index handle
      return .utf8Info index (document.file.pool.utf8 index)
  | .member handle => do
      let member ← document.checkMember handle
      return .member document.file.pool handle.table handle.position member

/-- The answer to a question that is not about a handle. -/
def inspect (document : Document) : Query → Reply
  | .findMember table name descriptor =>
      match document.file.findMember table name descriptor with
      | .ok position? => ⟨.ok (.foundMember position?), []⟩
      | .error misuse => ⟨.error (.misuse misuse), []⟩
  | .findAttribute holder name =>
      match document.file.attributesOf? holder with
      | none => ⟨.ok .absent, []⟩
      | some attributes =>
          match document.file.findAttribute attributes name with
          | .ok (some item) => ⟨.ok (.foundAttribute item), []⟩
          | .ok none => ⟨.ok .absent, []⟩
          | .error misuse => ⟨.error (.misuse misuse), []⟩
  | .constant index => ⟨.ok (.constant document.file.pool index), []⟩
  | .tables position => ⟨.ok (.tables document.file position), []⟩
  | .encode =>
      ⟨(document.file.encode.mapError Failure.encode).map .encoded, document.encodingEvents⟩
  | .write size =>
      ⟨.ok (.written (document.file.emission.toFixed size)), document.encodingEvents⟩
  | .dump => ⟨.ok (.dump document.file document.file.encode), document.encodingEvents⟩
  | .view => ⟨.ok (.view document.file), []⟩
  | .summary => ⟨(document.file.summary.mapError Failure.unresolved).map .summary, []⟩
  | .classInfo _ | .utf8Info _ | .member _ => ⟨.error .unknownHandle, []⟩

/-- Answer a question. -/
def ask (workspace : Workspace) (name : String) (query : Query) : Reply :=
  match workspace.queryHandle query, workspace.document name with
  | .error failure, _ => ⟨.error failure, []⟩
  | .ok _, .error failure => ⟨.error failure, []⟩
  | .ok (some handle), .ok document => ⟨(describe document handle).mapError .misuse, []⟩
  | .ok none, .ok document => inspect document query

/-- Open a class file under a name, after some events. -/
def openBytes (workspace : Workspace) (name : String) (trailing : TrailingData) (bytes : Bytes)
    (before : List Event) : Workspace × Reply :=
  let opened := Document.parse workspace.next trailing bytes
  let events := before ++ opened.events
  let workspace := { workspace with next := opened.next }
  match opened.result with
  | .error error => (workspace, ⟨.error (.decode error), events⟩)
  | .ok document =>
      (workspace.storeDocument name document, ⟨.ok (.opened document.identity), events⟩)

/-- Edit a class file. -/
def edit (workspace : Workspace) (name : String) (edit : Edit) (handleName? : Option String) :
    Workspace × Reply :=
  match workspace.document name with
  | .error failure => (workspace, ⟨.error failure, []⟩)
  | .ok document =>
      let edited := document.perform edit
      let workspace := workspace.storeDocument name edited.document
      match edited.result with
      | .error refusal => (workspace, ⟨.error (.ofRefusal refusal), edited.events⟩)
      | .ok .done => (workspace, ⟨.ok .done, edited.events⟩)
      | .ok (.flags context reports) =>
          (workspace, ⟨.ok (.flags context reports), edited.events⟩)
      | .ok (.handle handle) =>
          (handleName?.elim workspace (workspace.storeHandle · handle),
            ⟨.ok (.taken handle), edited.events⟩)

/-- A command that only fails. -/
def fail (workspace : Workspace) (failure : Failure) : Workspace × Reply :=
  (workspace, ⟨.error failure, []⟩)

/-- Perform a command. -/
def perform (workspace : Workspace) : Command → Workspace × Reply
  | .parse name bytes trailing => workspace.openBytes name trailing bytes []
  | .clone document name =>
      match workspace.document document with
      | .error failure => workspace.fail failure
      | .ok document =>
          let copy := document.clone workspace.next
          let workspace := { workspace with next := workspace.next.next }
          (workspace.storeDocument name copy, ⟨.ok (.opened copy.identity), []⟩)
  | .reparse document name =>
      match workspace.document document with
      | .error failure => workspace.fail failure
      | .ok document =>
          match document.file.encode with
          | .error error => (workspace, ⟨.error (.encode error), document.encodingEvents⟩)
          | .ok bytes => workspace.openBytes name .reject bytes document.encodingEvents
  | .compare left right =>
      match workspace.document left, workspace.document right with
      | .ok left, .ok right =>
          (workspace,
            ⟨.ok (.compared (left.file == right.file) (left.identity == right.identity)), []⟩)
      | _, _ => workspace.fail .unknownDocument
  | .compareHandles left right =>
      match workspace.handle left, workspace.handle right with
      | .ok left, .ok right => (workspace, ⟨.ok (.handlesCompared (left == right)), []⟩)
      | _, _ => workspace.fail .unknownHandle
  | .take document source name =>
      match workspace.document document with
      | .error failure => workspace.fail failure
      | .ok document =>
          match document.take? source with
          | none => (workspace, ⟨.ok .absent, []⟩)
          | some handle => (workspace.storeHandle name handle, ⟨.ok (.taken handle), []⟩)
  | .takeClassName document handle name =>
      match workspace.classHandle handle, workspace.document document with
      | .error failure, _ => workspace.fail failure
      | .ok _, .error failure => workspace.fail failure
      | .ok handle, .ok document =>
          match (document.classIndex handle).bind document.file.pool.classNameIndex with
          | .error misuse => workspace.fail (.misuse misuse)
          | .ok nameIndex =>
              let handle := document.utf8Handle nameIndex
              (workspace.storeHandle name handle, ⟨.ok (.taken handle), []⟩)
  | .edit document request name? =>
      match workspace.resolveEdit request with
      | .error failure => workspace.fail failure
      | .ok edit => workspace.edit document edit name?
  | .assign name assignment =>
      match workspace.document name with
      | .error failure => workspace.fail failure
      | .ok document =>
          (workspace.storeDocument name { document with file := document.file.assign assignment },
            ⟨.ok .done, []⟩)
  | .pool name command =>
      match workspace.document name with
      | .error failure => workspace.fail failure
      | .ok document =>
          let (result, pool) := document.file.pool.perform command
          (workspace.storeDocument name { document with file.pool := pool },
            ⟨(result.mapError Failure.ofPool).map .pool, []⟩)
  | .inspect name query => (workspace, workspace.ask name query)

/-- Perform a list of commands. -/
def performAll (workspace : Workspace) (commands : List Command) : Workspace :=
  commands.foldl (fun workspace command => (workspace.perform command).1) workspace

end Workspace

end ClassFormat

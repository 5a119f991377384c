import ClassFormat.Proofs.HandleStability

/-!
# Where handles come from

A workspace creates class files by opening bytes, by copying and by writing a class file and opening
the result.  No two of them share an identity, whatever happens in between, and a handle carries the
identity of the class file it was taken from.  So a class file refuses the handles of every other
one, be it a copy with the same content.

To say what a handle was taken from without its owner, a session keeps a record beside the
workspace: the class files in the order of their creation, and for names and handles the number of a
class file in this order.
-/

namespace ClassFormat

theorem lookup_store {α : Type} (name other : String) (value : α) (entries : List (String × α)) :
    (store name value entries).lookup other =
      if other = name then some value else entries.lookup other := by
  by_cases same : other = name
  · rw [if_pos same, same, store, List.lookup_cons_self]
  · rw [if_neg same, store, List.lookup_cons, beq_false_of_ne same]
    induction entries with
    | nil => rfl
    | cons entry entries ih =>
        rw [List.filter_cons]
        by_cases replaced : entry.1 = name
        · have skipped : other ≠ entry.1 := replaced ▸ same
          rw [if_neg (by simp [replaced]), ih, List.lookup_cons, beq_false_of_ne skipped]
        · rw [if_pos (by simp [replaced]), List.lookup_cons, List.lookup_cons]
          cases other == entry.1 with
          | true => rfl
          | false => exact ih

/-! ## Owners of handles -/

namespace Document

variable {document : Document} {handle : Handle}

/-- A handle that an edit gives belongs to the document. -/
theorem owner_of_perform {edit : Edit}
    (given : (document.perform edit).result = .ok (.handle handle)) :
    handle.owner = document.identity := by
  rcases exists_addition_of_perform given with ⟨addition, index, adds, rfl, _⟩
  cases edit with
  | addUtf8 | addClass =>
      cases adds
      rfl
  | _ => cases adds

theorem owner_of_take? {source : HandleSource} (taken : document.take? source = some handle) :
    handle.owner = document.identity := by
  cases source with
  | thisClass =>
      cases taken
      rfl
  | superClass | classAt | utf8At | member =>
      simp only [take?] at taken
      split at taken
      all_goals
        cases taken
        try rfl
  | interface | memberName | memberDescriptor | attributeName =>
      rcases Option.map_eq_some_iff.mp taken with ⟨_, _, rfl⟩
      rfl

/-- A handle of another document cannot be attached. -/
theorem describe_of_foreign (foreign : handle.owner ≠ document.identity) :
    Workspace.describe document handle =
      .error (.foreign handle.owner document.identity) := by
  have failed : document.checkOwner handle.owner =
      .error (.foreign handle.owner document.identity) := if_neg foreign
  cases handle with
  | classRef handle | utf8 handle | member handle =>
      simp only [Handle.owner] at failed
      simp only [Workspace.describe, classIndex, utf8Index, checkMember, failed]
      rfl

end Document

/-! ## Sessions -/

/-- The class file in front of some bytes.  It is created even if the bytes after it are refused. -/
def Document.readFrom? (fresh : Identity) (bytes : Bytes) : Option Document :=
  match ClassFile.decoder bytes with
  | .ok file _ => some ⟨fresh, file⟩
  | .error _ _ => none

/-- The class file that a command creates. -/
def Workspace.creates? (workspace : Workspace) : Command → Option Document
  | .parse _ bytes _ => Document.readFrom? workspace.next bytes
  | .clone source _ => (workspace.documents.lookup source).map (·.clone workspace.next)
  | .reparse source _ =>
      match workspace.documents.lookup source with
      | none => none
      | some document =>
          match document.file.encode with
          | .ok bytes => Document.readFrom? workspace.next bytes
          | .error _ => none
  | _ => none

/-- The name for the class file that a command creates. -/
def Command.newName? : Command → Option String
  | .parse name _ _ | .clone _ name | .reparse _ name => some name
  | _ => none

/-- The name of the class file from which a command takes a handle. -/
def Command.source? : Command → Option String
  | .take document _ _ | .takeClassName document _ _ | .edit document _ _ => some document
  | _ => none

namespace Reply

/-- Whether a class file has been opened. -/
def hasOpened (reply : Reply) : Bool :=
  match reply.result with
  | .ok (.opened _) => true
  | _ => false

/-- The handle that has been taken. -/
def handle? (reply : Reply) : Option Handle :=
  match reply.result with
  | .ok (.taken handle) => some handle
  | _ => none

end Reply

/-- A workspace and the record of what happened in it. -/
structure Session where
  workspace : Workspace
  /-- All class files that have been created, in order and as they were then. -/
  created : List Document
  /-- The number of the class file that a name stands for. -/
  origins : List (String × Nat)
  /-- All handles that have been taken, with the number of the class file each was taken from. -/
  taken : List (Handle × Nat)

namespace Session

/-- The session in which nothing has happened. -/
def start : Session :=
  ⟨.empty, [], [], []⟩

/-- Record what a command has done. -/
def record (session : Session) (command : Command) (performed : Workspace × Reply) : Session where
  workspace := performed.1
  created := session.created ++ (session.workspace.creates? command).toList
  origins :=
    match performed.2.hasOpened, command.newName? with
    | true, some name => store name session.created.length session.origins
    | _, _ => session.origins
  taken :=
    match performed.2.handle?, command.source?.bind (session.origins.lookup ·) with
    | some handle, some number => (handle, number) :: session.taken
    | _, _ => session.taken

/-- Perform a command. -/
def perform (session : Session) (command : Command) : Session :=
  session.record command (session.workspace.perform command)

/-- Perform a list of commands. -/
def performAll (session : Session) (commands : List Command) : Session :=
  commands.foldl perform session

end Session

/-! ## What a command does to identities -/

namespace Workspace

/-- The identity of the class file with a name. -/
def identity? (workspace : Workspace) (name : String) : Option Identity :=
  (workspace.documents.lookup name).map Document.identity

variable {workspace : Workspace} {name : String}

theorem document_eq_ok_iff {document : Document} :
    workspace.document name = .ok document ↔ workspace.documents.lookup name = some document := by
  unfold Workspace.document
  cases workspace.documents.lookup name with
  | none => simp
  | some found => simp

theorem handle_eq_ok_iff {handle : Handle} :
    workspace.handle name = .ok handle ↔ workspace.handles.lookup name = some handle := by
  unfold Workspace.handle
  cases workspace.handles.lookup name with
  | none => simp
  | some found => simp

theorem identity?_storeDocument (document : Document) (other : String) :
    (workspace.storeDocument name document).identity? other =
      if other = name then some document.identity else workspace.identity? other := by
  rw [identity?, storeDocument, lookup_store]
  split
  · rfl
  · rfl

/-- Storing a class file with the identity of the one it replaces keeps all identities. -/
theorem identity?_replace {old new : Document} (found : workspace.document name = .ok old)
    (identity_eq : new.identity = old.identity) (other : String) :
    (workspace.storeDocument name new).identity? other = workspace.identity? other := by
  rw [identity?_storeDocument]
  split
  · rename_i same
    rw [same, identity?, document_eq_ok_iff.mp found, identity_eq]
    rfl
  · rfl

/-- What a command does to the identities of the class files and to the handles. -/
inductive Effect (before : Workspace) (command : Command) : Workspace × Reply → Prop where
  /-- A class file gets the first unused identity, and a name. -/
  | opened {document : Document} {reply : Reply} {name : String}
      (creates : before.creates? command = some document)
      (fresh : document.identity = before.next)
      (named : command.newName? = some name) (hasOpened : reply.hasOpened = true)
      (takes : reply.handle? = none) :
      Effect before command
        ({ before with next := before.next.next }.storeDocument name document, reply)
  /-- A class file gets the first unused identity and is given up at once. -/
  | discarded {document : Document} {reply : Reply}
      (creates : before.creates? command = some document)
      (fresh : document.identity = before.next)
      (hasOpened : reply.hasOpened = false) (takes : reply.handle? = none) :
      Effect before command ({ before with next := before.next.next }, reply)
  /-- A handle is taken. -/
  | took {after : Workspace} {reply : Reply} {name : String} {handle : Handle}
      (creates : before.creates? command = none) (hasOpened : reply.hasOpened = false)
      (source : command.source? = some name) (takes : reply.handle? = some handle)
      (owner_eq : before.identity? name = some handle.owner)
      (next_eq : after.next = before.next)
      (identities : ∀ other, after.identity? other = before.identity? other)
      (handles : ∀ other held, after.handles.lookup other = some held →
        held = handle ∨ before.handles.lookup other = some held) :
      Effect before command (after, reply)
  /-- Nothing is created or taken. -/
  | kept {after : Workspace} {reply : Reply} (creates : before.creates? command = none)
      (opens : command.newName? = none ∨ reply.hasOpened = false)
      (takes : command.source? = none ∨ reply.handle? = none)
      (next_eq : after.next = before.next)
      (identities : ∀ other, after.identity? other = before.identity? other)
      (handles_eq : after.handles = before.handles) :
      Effect before command (after, reply)

/-- A command that leaves the workspace alone. -/
theorem Effect.same {command : Command} {reply : Reply}
    (creates : workspace.creates? command = none)
    (opens : command.newName? = none ∨ reply.hasOpened = false)
    (takes : command.source? = none ∨ reply.handle? = none) :
    workspace.Effect command (workspace, reply) :=
  .kept creates opens takes rfl (fun _ => rfl) rfl

theorem handles_storeHandle {handle : Handle} (other : String) (held : Handle)
    (found : (workspace.storeHandle name handle).handles.lookup other = some held) :
    held = handle ∨ workspace.handles.lookup other = some held := by
  rw [storeHandle, lookup_store] at found
  split at found
  · cases found
    exact .inl rfl
  · exact .inr found

theorem openBytes_effect {command : Command} {trailing : TrailingData} {bytes : Bytes}
    {events : List Event}
    (creates : workspace.creates? command = Document.readFrom? workspace.next bytes)
    (named : command.newName? = some name) :
    workspace.Effect command (workspace.openBytes name trailing bytes events) := by
  unfold Document.readFrom? at creates
  unfold openBytes Document.parse
  cases decoded : ClassFile.decoder bytes with
  | error error rest =>
      rw [decoded] at creates
      exact .same creates (.inr rfl) (.inr rfl)
  | ok file rest =>
      rw [decoded] at creates
      cases rest with
      | nil => exact .opened creates rfl named rfl rfl
      | cons byte rest =>
          cases trailing with
          | reject => exact .discarded creates rfl rfl rfl
          | ignore => exact .opened creates rfl named rfl rfl

/-- An edit keeps all identities, and a handle that it gives belongs to the class file. -/
theorem edit_effect {command : Command} {change : Edit} {handleName? : Option String}
    (creates : workspace.creates? command = none) (source : command.source? = some name) :
    workspace.Effect command (workspace.edit name change handleName?) := by
  unfold Workspace.edit
  cases found : workspace.document name with
  | error failure => exact .same creates (.inr rfl) (.inr rfl)
  | ok document =>
      have identities := identity?_replace found (document.perform_retains change).1
      cases result_eq : (document.perform change).result with
      | error refusal =>
          simp only [result_eq]
          exact .kept creates (.inr rfl) (.inr rfl) rfl identities rfl
      | ok answer =>
          simp only [result_eq]
          cases answer with
          | done => exact .kept creates (.inr rfl) (.inr rfl) rfl identities rfl
          | flags => exact .kept creates (.inr rfl) (.inr rfl) rfl identities rfl
          | handle handle =>
              have owner_eq : workspace.identity? name = some handle.owner := by
                rw [identity?, document_eq_ok_iff.mp found, Document.owner_of_perform result_eq]
                rfl
              cases handleName? with
              | none =>
                  exact .took creates rfl source rfl owner_eq rfl identities
                    fun _ _ held => .inr held
              | some handleName =>
                  exact .took creates rfl source rfl owner_eq rfl identities
                    handles_storeHandle

/-- A handle that belongs to a class file is taken and stored. -/
theorem take_effect {command : Command} {document : Document} {handle : Handle}
    {handleName : String} (found : workspace.document name = .ok document)
    (owner_eq : handle.owner = document.identity) (creates : workspace.creates? command = none)
    (source : command.source? = some name) :
    workspace.Effect command
      (workspace.storeHandle handleName handle, ⟨.ok (.taken handle), []⟩) := by
  have owned : workspace.identity? name = some handle.owner := by
    rw [identity?, document_eq_ok_iff.mp found, owner_eq]
    rfl
  exact .took creates rfl source rfl owned rfl (fun _ => rfl) handles_storeHandle

theorem perform_effect (workspace : Workspace) (command : Command) :
    workspace.Effect command (workspace.perform command) := by
  cases command with
  | parse name bytes trailing => exact openBytes_effect rfl rfl
  | clone source name =>
      have creates : workspace.creates? (.clone source name) =
          (workspace.documents.lookup source).map (·.clone workspace.next) := rfl
      simp only [perform, document]
      cases found : workspace.documents.lookup source with
      | none =>
          rw [found] at creates
          exact .same creates (.inr rfl) (.inl rfl)
      | some document =>
          rw [found] at creates
          exact .opened creates rfl rfl rfl rfl
  | reparse source name =>
      cases found : workspace.documents.lookup source with
      | none =>
          simp only [perform, document, found]
          apply Effect.same _ (.inr rfl) (.inl rfl)
          simp only [creates?, found]
      | some document =>
          cases encoded : document.file.encode with
          | error error =>
              simp only [perform, Workspace.document, found, encoded]
              apply Effect.same _ (.inr rfl) (.inl rfl)
              simp only [creates?, found, encoded]
          | ok bytes =>
              simp only [perform, Workspace.document, found, encoded]
              apply openBytes_effect _ rfl
              simp only [creates?, found, encoded]
  | compare left right =>
      simp only [perform]
      split
      · exact .same rfl (.inl rfl) (.inl rfl)
      · exact .same rfl (.inl rfl) (.inl rfl)
  | compareHandles left right =>
      simp only [perform]
      split
      · exact .same rfl (.inl rfl) (.inl rfl)
      · exact .same rfl (.inl rfl) (.inl rfl)
  | take source taken name =>
      simp only [perform]
      cases found : workspace.document source with
      | error failure => exact .same rfl (.inl rfl) (.inr rfl)
      | ok document =>
          cases given : document.take? taken with
          | none =>
              simp only [given]
              exact .same rfl (.inl rfl) (.inr rfl)
          | some handle =>
              simp only [given]
              exact take_effect found (Document.owner_of_take? given) rfl rfl
  | takeClassName source handle name =>
      simp only [perform]
      split
      · exact .same rfl (.inl rfl) (.inr rfl)
      · exact .same rfl (.inl rfl) (.inr rfl)
      · rename_i document _ found
        split
        · exact .same rfl (.inl rfl) (.inr rfl)
        · exact take_effect found rfl rfl rfl
  | edit source request name? =>
      simp only [perform]
      split
      · exact .same rfl (.inl rfl) (.inr rfl)
      · exact edit_effect rfl rfl
  | assign name assignment =>
      simp only [perform]
      cases found : workspace.document name with
      | error failure => exact .same rfl (.inl rfl) (.inl rfl)
      | ok document => exact .kept rfl (.inl rfl) (.inl rfl) rfl (identity?_replace found rfl) rfl
  | pool name command =>
      -- The reply may say anything, but the command neither names a class file nor takes a handle.
      simp only [perform]
      cases found : workspace.document name with
      | error failure => exact .same rfl (.inl rfl) (.inl rfl)
      | ok document => exact .kept rfl (.inl rfl) (.inl rfl) rfl (identity?_replace found rfl) rfl
  | inspect name query => exact .same rfl (.inl rfl) (.inl rfl)

end Workspace

/-! ## The record is right -/

namespace Session

/-- The record of a session agrees with its workspace. -/
structure Recorded (session : Session) : Prop where
  /-- The identities are given out in order. -/
  created : session.created.map Document.identity =
    (List.range session.created.length).map Identity.mk
  next : session.workspace.next = ⟨session.created.length⟩
  origins : ∀ name, session.origins.lookup name =
    (session.workspace.identity? name).map Identity.number
  bounded : ∀ name identity, session.workspace.identity? name = some identity →
    identity.number < session.created.length
  taken : ∀ handle number, (handle, number) ∈ session.taken →
    handle.owner = ⟨number⟩ ∧ number < session.created.length
  handles : ∀ name handle, session.workspace.handles.lookup name = some handle →
    ∃ number, (handle, number) ∈ session.taken

variable {session : Session} {command : Command} {performed : Workspace × Reply}

/-- A command that opens no class file and takes no handle adds at most to the class files that have
been created. -/
theorem record_eq (opens : command.newName? = none ∨ performed.2.hasOpened = false)
    (takes : command.source? = none ∨ performed.2.handle? = none) :
    session.record command performed =
      ⟨performed.1, session.created ++ (session.workspace.creates? command).toList,
        session.origins, session.taken⟩ := by
  unfold record
  congr 1
  · rcases opens with unnamed | closed
    · rw [unnamed]
      cases performed.2.hasOpened <;> rfl
    · rw [closed]
  · rcases takes with noSource | noHandle
    · rw [noSource]
      cases performed.2.handle? <;> rfl
    · rw [noHandle]

theorem recorded_start : start.Recorded where
  created := rfl
  next := rfl
  origins _ := rfl
  bounded _ _ found := by cases found
  taken _ _ mem := absurd mem List.not_mem_nil
  handles _ _ found := by cases found

namespace Recorded

theorem lt_append {number : Nat} {document : Document} (inside : number < session.created.length) :
    number < (session.created ++ [document]).length := by
  rw [List.length_append]
  exact Nat.lt_add_right _ inside

theorem next_append (recorded : session.Recorded) (document : Document) :
    session.workspace.next.next = ⟨(session.created ++ [document]).length⟩ := by
  rw [recorded.next, List.length_append]
  rfl

/-- The next class file carries on the list of identities. -/
theorem created_append (recorded : session.Recorded) {document : Document}
    (fresh : document.identity = session.workspace.next) :
    (session.created ++ [document]).map Document.identity =
      (List.range (session.created ++ [document]).length).map Identity.mk := by
  rw [List.map_append, recorded.created, List.length_append, List.length_singleton,
    List.range_succ, List.map_append, List.map_singleton, List.map_singleton, fresh,
    recorded.next]

/-- A new class file is put under a name. -/
theorem opened (recorded : session.Recorded) {document : Document} (name : String)
    (fresh : document.identity = session.workspace.next) :
    Recorded ⟨{ session.workspace with next := session.workspace.next.next }.storeDocument name
      document, session.created ++ [document], store name session.created.length session.origins,
      session.taken⟩ where
  created := recorded.created_append fresh
  next := recorded.next_append document
  origins other := by
    rw [lookup_store, Workspace.identity?_storeDocument]
    by_cases same : other = name
    · rw [if_pos same, if_pos same, fresh, recorded.next]
      rfl
    · rw [if_neg same, if_neg same]
      exact recorded.origins other
  bounded other identity found := by
    rw [Workspace.identity?_storeDocument] at found
    by_cases same : other = name
    · rw [if_pos same, fresh, recorded.next] at found
      cases found
      rw [List.length_append]
      exact Nat.lt_succ_self _
    · rw [if_neg same] at found
      exact lt_append (recorded.bounded other identity found)
  taken handle number mem :=
    ⟨(recorded.taken handle number mem).1, lt_append (recorded.taken handle number mem).2⟩
  handles := recorded.handles

/-- A new class file is given up at once. -/
theorem discarded (recorded : session.Recorded) {document : Document}
    (fresh : document.identity = session.workspace.next) :
    Recorded ⟨{ session.workspace with next := session.workspace.next.next },
      session.created ++ [document], session.origins, session.taken⟩ where
  created := recorded.created_append fresh
  next := recorded.next_append document
  origins := recorded.origins
  bounded name identity found := lt_append (recorded.bounded name identity found)
  taken handle number mem :=
    ⟨(recorded.taken handle number mem).1, lt_append (recorded.taken handle number mem).2⟩
  handles := recorded.handles

/-- No class file is created, and identities are kept. -/
theorem kept (recorded : session.Recorded) {after : Workspace} {taken : List (Handle × Nat)}
    (next_eq : after.next = session.workspace.next)
    (identities : ∀ name, after.identity? name = session.workspace.identity? name)
    (owners : ∀ handle number, (handle, number) ∈ taken →
      handle.owner = ⟨number⟩ ∧ number < session.created.length)
    (handles : ∀ name handle, after.handles.lookup name = some handle →
      ∃ number, (handle, number) ∈ taken) :
    Recorded ⟨after, session.created, session.origins, taken⟩ where
  created := recorded.created
  next := next_eq.trans recorded.next
  origins name := (recorded.origins name).trans (congrArg _ (identities name).symm)
  bounded name identity found := recorded.bounded name identity ((identities name).symm.trans found)
  taken := owners
  handles := handles

/-- Whatever a command does, the record stays right. -/
theorem record (recorded : session.Recorded) (effect : session.workspace.Effect command performed) :
    (session.record command performed).Recorded := by
  cases effect with
  | opened creates fresh named hasOpened takes =>
      simp only [Session.record, creates, named, hasOpened, takes]
      exact recorded.opened _ fresh
  | discarded creates fresh hasOpened takes =>
      rw [record_eq (.inr hasOpened) (.inr takes), creates]
      exact recorded.discarded fresh
  | @took after reply name handle creates hasOpened source takes owner_eq next_eq identities
      handles =>
      have number_eq : session.origins.lookup name = some handle.owner.number := by
        rw [recorded.origins, owner_eq]
        rfl
      simp only [Session.record, creates, hasOpened, source, takes, Option.bind_some, number_eq,
        Option.toList_none, List.append_nil]
      apply recorded.kept next_eq identities
      · intro other number mem
        rcases List.mem_cons.mp mem with new | old
        · cases new
          exact ⟨rfl, recorded.bounded name handle.owner owner_eq⟩
        · exact recorded.taken other number old
      · intro other held found
        rcases handles other held found with rfl | old
        · exact ⟨_, List.mem_cons_self⟩
        · rcases recorded.handles other held old with ⟨number, mem⟩
          exact ⟨number, List.mem_cons_of_mem _ mem⟩
  | @kept after reply creates opens takes next_eq identities handles_eq =>
      rw [record_eq opens takes, creates, Option.toList_none, List.append_nil]
      apply recorded.kept next_eq identities recorded.taken
      intro name handle found
      rw [handles_eq] at found
      exact recorded.handles name handle found

theorem perform (recorded : session.Recorded) (command : Command) :
    (session.perform command).Recorded :=
  recorded.record (session.workspace.perform_effect command)

theorem performAll (recorded : session.Recorded) (commands : List Command) :
    (session.performAll commands).Recorded := by
  induction commands generalizing session with
  | nil => exact recorded
  | cons command commands ih => exact ih (recorded.perform command)

/-- The class file with a number has the identity with that number. -/
theorem identity_created (recorded : session.Recorded) {number : Nat}
    (inside : number < session.created.length) :
    ∃ original, session.created[number]? = some original ∧ original.identity = ⟨number⟩ := by
  have identities := congrArg (·[number]?) recorded.created
  simp only [List.getElem?_map, List.getElem?_range inside, List.getElem?_eq_getElem inside,
    Option.map_some, Option.some.injEq] at identities
  exact ⟨_, List.getElem?_eq_getElem inside, identities⟩

theorem nodup_created (recorded : session.Recorded) :
    (session.created.map Document.identity).Nodup := by
  rw [recorded.created]
  apply List.Nodup.map _ List.nodup_range
  intro first second same
  exact congrArg Identity.number same

end Recorded

theorem workspace_performAll (session : Session) (commands : List Command) :
    (session.performAll commands).workspace = session.workspace.performAll commands := by
  induction commands generalizing session with
  | nil => rfl
  | cons command commands ih => exact ih (session.perform command)

end Session

/-! ## Handles of other class files -/

/-- A command gives a handle to the class file with a name, for an edit or to be attached. -/
def Command.Passes (workspace : Workspace) (name : String) (handle : Handle) : Command → Prop
  | .edit document request _ =>
      document = name ∧ ∃ edit, workspace.resolveEdit request = .ok edit ∧ handle ∈ edit.handles
  | .inspect document query =>
      document = name ∧ workspace.queryHandle query = .ok (some handle)
  | .takeClassName document given _ =>
      document = name ∧ ∃ classHandle, workspace.classHandle given = .ok classHandle ∧
        handle = .classRef classHandle
  | _ => False

namespace Workspace

/-- Two workspaces have the same class files and handles. -/
structure SameContent (before after : Workspace) : Prop where
  next : after.next = before.next
  documents : ∀ name, after.document name = before.document name
  handles : after.handles = before.handles

variable {workspace : Workspace} {name : String} {document : Document}

theorem SameContent.refl (workspace : Workspace) : workspace.SameContent workspace :=
  ⟨rfl, fun _ => rfl, rfl⟩

/-- Storing the class file that is there changes nothing. -/
theorem sameContent_storeDocument (found : workspace.document name = .ok document) :
    workspace.SameContent (workspace.storeDocument name document) where
  next := rfl
  documents other := by
    rw [Workspace.document, storeDocument, lookup_store]
    by_cases same : other = name
    · rw [if_pos same, same, found]
    · rw [if_neg same]
      rfl
  handles := rfl

/-- A class file refuses the handles of another one, and nothing changes. -/
theorem refuses_foreign {handle : Handle} {command : Command}
    (found : workspace.document name = .ok document)
    (foreign : handle.owner ≠ document.identity)
    (passes : command.Passes workspace name handle) :
    (∃ misuse, (workspace.perform command).2.result = .error (.misuse misuse)) ∧
      workspace.SameContent (workspace.perform command).1 := by
  cases command with
  | edit source request handleName? =>
      rcases passes with ⟨rfl, edit, resolved, mem⟩
      have refused : document.admits handle = false := by
        rw [← Bool.not_eq_true, Document.admits_iff]
        exact fun admitted => foreign admitted.1
      rcases Document.perform_misuse_iff.mpr ⟨handle, mem, refused⟩ with ⟨misuse, failed⟩
      have unchanged := (document.perform_outcome edit).document_of_error failed
      simp only [perform, resolved, Workspace.edit, found, failed, unchanged]
      exact ⟨⟨misuse, rfl⟩, sameContent_storeDocument found⟩
  | inspect source query =>
      rcases passes with ⟨rfl, resolved⟩
      simp only [perform, ask, resolved, found, Document.describe_of_foreign foreign]
      exact ⟨⟨_, rfl⟩, .refl workspace⟩
  | takeClassName source given handleName =>
      rcases passes with ⟨rfl, classHandle, resolved, rfl⟩
      have failed : document.classIndex classHandle =
          .error (.foreign classHandle.owner document.identity) := by
        simp only [Handle.owner] at foreign
        rw [Document.classIndex, Document.checkOwner, if_neg foreign]
        rfl
      simp only [perform, resolved, found, failed]
      exact ⟨⟨_, rfl⟩, .refl workspace⟩
  | parse | clone | reparse | compare | compareHandles | take | assign | pool => cases passes

end Workspace

namespace Session

variable {session : Session} {name : String} {handle : Handle}

namespace Recorded

/-- An open class file has the identity it was created with. -/
theorem original_of_document (recorded : session.Recorded) {document : Document}
    (found : session.workspace.document name = .ok document) :
    ∃ number original, session.origins.lookup name = some number ∧
      session.created[number]? = some original ∧ document.identity = original.identity := by
  have named : session.workspace.identity? name = some document.identity :=
    congrArg (Option.map Document.identity) (Workspace.document_eq_ok_iff.mp found)
  rcases recorded.identity_created (recorded.bounded name _ named) with
    ⟨original, isCreated, identity_eq⟩
  refine ⟨document.identity.number, original, ?_, isCreated, identity_eq.symm⟩
  rw [recorded.origins, named]
  rfl

/-- A handle carries the identity of the class file it was taken from. -/
theorem original_of_taken (recorded : session.Recorded) {number : Nat}
    (mem : (handle, number) ∈ session.taken) :
    ∃ original, session.created[number]? = some original ∧ handle.owner = original.identity := by
  rcases recorded.taken handle number mem with ⟨owner_eq, inside⟩
  rcases recorded.identity_created inside with ⟨original, isCreated, identity_eq⟩
  exact ⟨original, isCreated, owner_eq.trans identity_eq.symm⟩

/-- A handle with another number than the class file it is given to is refused. -/
theorem refuses_foreign (recorded : session.Recorded) {target source : Nat} {command : Command}
    (origin : session.origins.lookup name = some target)
    (mem : (handle, source) ∈ session.taken) (different : source ≠ target)
    (passes : command.Passes session.workspace name handle) :
    (∃ misuse, (session.workspace.perform command).2.result = .error (.misuse misuse)) ∧
      session.workspace.SameContent (session.workspace.perform command).1 := by
  rw [recorded.origins, Workspace.identity?, Option.map_map] at origin
  rcases Option.map_eq_some_iff.mp origin with ⟨document, found, number_eq⟩
  apply Workspace.refuses_foreign (Workspace.document_eq_ok_iff.mpr found) _ passes
  -- The identity of the document has the number of its origin, and the owner that of the source.
  intro same
  apply different
  rw [← number_eq, Function.comp_apply, ← same, (recorded.taken handle source mem).1]

end Recorded

/-- After any commands, no two class files that have been created share an identity, and every open
class file has the identity it was created with.  Every handle was taken from one of them and
carries its identity.  An edit keeps the identity.  So a handle that was taken from one class file
is refused by all the others, and neither these nor the handles change. -/
theorem foreign_handles_refused (commands : List Command) :
    let session := start.performAll commands
    session.workspace = Workspace.empty.performAll commands ∧
      (session.created.map Document.identity).Nodup ∧
      (∀ name document, session.workspace.document name = .ok document →
        ∃ number original, session.origins.lookup name = some number ∧
          session.created[number]? = some original ∧ document.identity = original.identity) ∧
      (∀ name handle, session.workspace.handle name = .ok handle →
        ∃ number, (handle, number) ∈ session.taken) ∧
      (∀ handle number, (handle, number) ∈ session.taken →
        ∃ original, session.created[number]? = some original ∧
          handle.owner = original.identity) ∧
      (∀ (document : Document) (edit : Edit),
        (document.perform edit).document.identity = document.identity) ∧
      ∀ name target handle source command, session.origins.lookup name = some target →
        (handle, source) ∈ session.taken → source ≠ target →
        command.Passes session.workspace name handle →
        (∃ misuse, (session.workspace.perform command).2.result = .error (.misuse misuse)) ∧
          session.workspace.SameContent (session.workspace.perform command).1 := by
  intro session
  have recorded : session.Recorded := recorded_start.performAll commands
  refine ⟨start.workspace_performAll commands, recorded.nodup_created,
    fun _ _ => recorded.original_of_document, ?_, fun _ _ => recorded.original_of_taken,
    fun document edit => (document.perform_retains edit).1,
    fun _ _ _ _ _ => recorded.refuses_foreign⟩
  intro name handle found
  exact recorded.handles name handle (Workspace.handle_eq_ok_iff.mp found)

/-- The first class file is given up for what follows it.  A handle of a copy is refused by the
class file that was copied and by one that was opened from its bytes, although all three are
equal. -/
theorem foreign_handles_refused_sample :
    let commands : List Command :=
      [.parse "rejected" (Document.sampleBytes ++ [9]) .reject,
        .parse "first" Document.sampleBytes .reject, .clone "first" "copy",
        .reparse "first" "again", .take "copy" (.classAt 4) "handle"]
    let session := start.performAll commands
    let edit : Command := .edit "first" (.setThisClass "handle") none
    let attach : Command := .inspect "again" (.classInfo "handle")
    session.created = [⟨⟨0⟩, Document.sampleFile⟩, ⟨⟨1⟩, Document.sampleFile⟩,
        ⟨⟨2⟩, Document.sampleFile⟩, ⟨⟨3⟩, Document.sampleFile⟩] ∧
      session.taken = [(.classRef ⟨⟨2⟩, 4⟩, 2)] ∧
      ((∃ misuse, (session.workspace.perform edit).2.result = .error (.misuse misuse)) ∧
        session.workspace.SameContent (session.workspace.perform edit).1) ∧
      (∃ misuse, (session.workspace.perform attach).2.result = .error (.misuse misuse)) ∧
        session.workspace.SameContent (session.workspace.perform attach).1 := by
  intro commands session edit attach
  have taken : session.taken = [(.classRef ⟨⟨2⟩, 4⟩, 2)] := by rfl
  have mem : (Handle.classRef ⟨⟨2⟩, 4⟩, 2) ∈ session.taken := by
    rw [taken]
    exact List.mem_cons_self
  rcases foreign_handles_refused commands with ⟨_, _, _, _, _, _, refused⟩
  refine ⟨by rfl, taken, ?_, ?_⟩
  · exact refused "first" 1 _ 2 edit (by rfl) mem (by decide)
      ⟨rfl, .setThisClass ⟨⟨2⟩, 4⟩, by rfl, List.mem_cons_self⟩
  · exact refused "again" 3 _ 2 attach (by rfl) mem (by decide) ⟨rfl, by rfl⟩

end Session

end ClassFormat

import ClassFormat.Proofs.Reachable
import ClassFormat.Workspace.Run

/-!
# Handles that stay good

A handle is only an index or a position, and nothing ties it to the class file while others edit
that.  Still, a handle that was checked when it was taken never goes bad: edits may rewrite strings
and append constants, but they keep the kind of every constant, the name index of every class and
the number of members (`ClassFile.Retains`).

Handles are checked when they come from adding a constant, from asking for a string or a class at an
index, and from the tables of members.  The other ways of taking a handle follow an index of the
class file that may lead nowhere.
-/

namespace ClassFormat

/-! ## What edits keep -/

/-- What a class file keeps for the handles that lead into it. -/
structure ClassFile.Retains (before after : ClassFile) : Prop where
  utf8 : ∀ index, before.pool.isUtf8 index = true → after.pool.isUtf8 index = true
  classRef : ∀ index nameIndex, before.pool.get? index = some (.classRef nameIndex) →
    after.pool.get? index = some (.classRef nameIndex)
  /-- There are as many members as before, and each has its attributes. -/
  members : ∀ table, (after.table table).map Member.attributes =
    (before.table table).map Member.attributes

namespace ClassFile

theorem Retains.refl (file : ClassFile) : file.Retains file :=
  ⟨fun _ => id, fun _ _ => id, fun _ => rfl⟩

theorem Retains.trans {first second third : ClassFile} (earlier : first.Retains second)
    (later : second.Retains third) : first.Retains third where
  utf8 index isUtf8 := later.utf8 index (earlier.utf8 index isUtf8)
  classRef index nameIndex found := later.classRef index nameIndex
    (earlier.classRef index nameIndex found)
  members table := (later.members table).trans (earlier.members table)

theorem Retains.length_table {before after : ClassFile} (retains : before.Retains after)
    (table : MemberTable) : (after.table table).length = (before.table table).length := by
  have lengths := congrArg List.length (retains.members table)
  rwa [List.length_map, List.length_map] at lengths

theorem retains_withPool {file : ClassFile} {pool : ConstantPool}
    (utf8 : ∀ index, file.pool.isUtf8 index = true → pool.isUtf8 index = true)
    (classRef : ∀ index nameIndex, file.pool.get? index = some (.classRef nameIndex) →
      pool.get? index = some (.classRef nameIndex)) :
    file.Retains { file with pool := pool } where
  utf8 := utf8
  classRef := classRef
  members table := by cases table <;> rfl

theorem retains_append (file : ClassFile) (entry : Entry) :
    file.Retains { file with pool := file.pool.append entry } := by
  apply retains_withPool
  · intro index isUtf8
    rcases ConstantPool.isUtf8_iff.mp isUtf8 with ⟨string, found⟩
    exact ConstantPool.isUtf8_iff.mpr ⟨string, ConstantPool.get?_append_of_eq_some found⟩
  · intro index nameIndex found
    exact ConstantPool.get?_append_of_eq_some found

theorem retains_setMember {file : ClassFile} {table : MemberTable} {position : Nat}
    {old new : Member} (found : (file.table table)[position]? = some old)
    (attributes_eq : new.attributes = old.attributes) :
    file.Retains (file.withTable table ((file.table table).set position new)) where
  utf8 index isUtf8 := by cases table <;> exact isUtf8
  classRef index nameIndex isClass := by cases table <;> exact isClass
  members other := by
    rw [table_withTable]
    by_cases same : other = table
    · subst same
      have kept : ((file.table other).map Member.attributes)[position]? = some new.attributes := by
        rw [List.getElem?_map, found, attributes_eq]
        rfl
      rcases List.getElem?_eq_some_iff.mp kept with ⟨inside, value⟩
      rw [if_pos rfl, List.map_set, ← value, List.set_getElem_self]
    · rw [if_neg same]

/-- Whatever an edit does to a class file, handles into it lead where they led. -/
theorem EditStep.retains {before after : ClassFile} (step : before.EditStep after) :
    before.Retains after := by
  cases step with
  | unchanged => exact .refl before
  | thisClass | superClass | interfaces | classFlags =>
      exact ⟨fun _ => id, fun _ _ => id, fun table => by cases table <;> rfl⟩
  | memberName found _ => exact retains_setMember found rfl
  | memberDescriptor found _ => exact retains_setMember found rfl
  | memberFlags _ found => exact retains_setMember found rfl
  | setUtf8 string isUtf8 =>
      apply retains_withPool (ConstantPool.extends_set_utf8 isUtf8).utf8
      intro index nameIndex found
      rcases ConstantPool.isUtf8_iff.mp isUtf8 with ⟨old, foundOld⟩
      rw [ConstantPool.get?_set foundOld, if_neg, found]
      rintro rfl
      rw [found] at foundOld
      cases foundOld
  | addUtf8 | addClass => exact retains_append before _

end ClassFile

namespace Document

/-- A document that keeps its identity and what handles need admits the handles it admitted. -/
theorem admits_of_retains {before after : Document} {handle : Handle}
    (identity_eq : after.identity = before.identity) (retains : before.file.Retains after.file)
    (admitted : before.admits handle = true) : after.admits handle = true := by
  rw [admits_iff] at admitted ⊢
  rcases admitted with ⟨owner_eq, addressed⟩
  refine ⟨owner_eq.trans identity_eq.symm, ?_⟩
  cases handle with
  | classRef handle =>
      rcases ConstantPool.isClass_iff.mp addressed with ⟨nameIndex, found⟩
      exact ConstantPool.isClass_iff.mpr ⟨nameIndex, retains.classRef _ _ found⟩
  | utf8 handle => exact retains.utf8 _ addressed
  | member handle =>
      simp only [addresses, decide_eq_true_eq] at addressed ⊢
      rwa [retains.length_table]

theorem perform_retains (document : Document) (edit : Edit) :
    (document.perform edit).document.identity = document.identity ∧
      document.file.Retains (document.perform edit).document.file := by
  rcases document.perform_step edit with ⟨file, step, document_eq⟩
  rw [document_eq]
  exact ⟨rfl, step.retains⟩

end Document

/-! ## Where checked handles come from -/

namespace ConstantPool

theorem get?_of_indexOf? {pool : ConstantPool} (layout : pool.Layout) {entry : Entry}
    {index : UInt16} (found : pool.indexOf? entry = some index) :
    pool.get? index = some entry := by
  rcases Option.map_eq_some_iff.mp found with ⟨⟨actual, candidate⟩, first, rfl⟩
  have same : candidate = entry := by simpa using List.find?_some first
  rw [← same]
  exact layout.mem_entries_iff.mp (List.mem_of_find?_eq_some first)

/-- An appended constant is found at the old count. -/
theorem get?_append_count {pool : ConstantPool} (layout : pool.Layout) (entry : Entry) :
    (pool.append entry).get? pool.count = some entry := by
  rw [get?_eq_some_iff, slot?, layout.toNat_count]
  unfold append
  split
  · rw [Array.getElem?_push_lt (by simp)]
    simp
  · simp

end ConstantPool

namespace Document

variable {document : Document}

/-- A handle that an edit gives is for the constant that the edit adds, where it is now. -/
theorem exists_addition_of_perform {edit : Edit} {handle : Handle}
    (given : (document.perform edit).result = .ok (.handle handle)) :
    ∃ addition index, edit.addition? = some addition ∧
      handle = addition.handle document.identity index ∧
      (document.file.pool.Layout →
        (document.perform edit).document.file.pool.get? index = some addition.entry) := by
  have outcome := document.perform_outcome edit
  generalize document.perform edit = edited at outcome given ⊢
  cases outcome with
  | refused | full => cases given
  | altered => cases edit <;> cases given
  | found _ adds found =>
      cases given
      exact ⟨_, _, adds, rfl, fun layout => ConstantPool.get?_of_indexOf? layout found⟩
  | appended _ adds =>
      cases given
      exact ⟨_, _, adds, rfl, fun layout => ConstantPool.get?_append_count layout _⟩

/-- A handle that an edit gives is admitted by the edited document. -/
theorem admits_of_perform (layout : document.file.pool.Layout) {edit : Edit} {handle : Handle}
    (given : (document.perform edit).result = .ok (.handle handle)) :
    (document.perform edit).document.admits handle = true := by
  have identity_eq := (document.perform_retains edit).1
  rcases exists_addition_of_perform given with ⟨addition, index, adds, rfl, leads⟩
  have found := leads layout
  rw [admits_iff]
  cases edit with
  | addUtf8 text =>
      cases adds
      exact ⟨identity_eq.symm, ConstantPool.isUtf8_iff.mpr ⟨_, found⟩⟩
  | addClass name =>
      cases adds
      exact ⟨identity_eq.symm, ConstantPool.isClass_iff.mpr ⟨_, found⟩⟩
  | _ => cases adds

end Document

/-- Whether a source of handles checks that there is something of the right sort. -/
def HandleSource.isChecked : HandleSource → Bool
  | .classAt _ | .utf8At _ | .member _ _ => true
  | .thisClass | .superClass | .interface _ | .memberName _ _ | .memberDescriptor _ _
  | .attributeName _ => false

theorem Document.admits_of_take? {document : Document} {source : HandleSource} {handle : Handle}
    (checked : source.isChecked = true) (taken : document.take? source = some handle) :
    document.admits handle = true := by
  rw [admits_iff]
  cases source with
  | classAt index =>
      simp only [take?] at taken
      split at taken
      · rename_i isClass
        cases taken
        exact ⟨rfl, isClass⟩
      · cases taken
  | utf8At index =>
      simp only [take?] at taken
      split at taken
      · rename_i isUtf8
        cases taken
        exact ⟨rfl, isUtf8⟩
      · cases taken
  | member table position =>
      simp only [take?] at taken
      split at taken
      · rename_i inside
        cases taken
        exact ⟨rfl, decide_eq_true inside⟩
      · cases taken
  | thisClass | superClass | interface | memberName | memberDescriptor | attributeName =>
      cases checked

/-- The position of a match lies inside the list. -/
theorem lt_of_firstMatch {α ε : Type} {test : α → Except ε Bool} {items : List α}
    {start position : Nat} (found : firstMatch test start items = .ok (some position)) :
    position < start + items.length := by
  induction items generalizing start with
  | nil => cases found
  | cons item items ih =>
      simp only [firstMatch] at found
      rw [List.length_cons]
      split at found
      · cases found
      · cases found
        exact Nat.lt_add_of_pos_right (Nat.succ_pos items.length)
      · have later := ih found
        rwa [Nat.add_right_comm, Nat.add_assoc] at later

/-! ## Runs of calls -/

/-- A call on an open class file.  Calls that only show texts, numbers and flags are no part of
this: they are given no handle and change nothing. -/
inductive Call where
  | edit (change : Edit)
  /-- Take a handle. -/
  | take (source : HandleSource)
  /-- Look for a member and take its handle. -/
  | find (table : MemberTable) (name descriptor : String)
  /-- Attach a handle to the class file again. -/
  | attach (handle : Handle)

namespace Call

/-- The handles that a call is given. -/
def handles : Call → List Handle
  | .edit change => change.handles
  | .take _ | .find _ _ _ => []
  | .attach handle => [handle]

/-- The document after a call. -/
def after (document : Document) : Call → Document
  | .edit change => (document.perform change).document
  | .take _ | .find _ _ _ | .attach _ => document

/-- The handle that a call gives, if the call checks it. -/
def gives? (document : Document) : Call → Option Handle
  | .edit change =>
      match (document.perform change).result with
      | .ok (.handle handle) => some handle
      | _ => none
  | .take source => if source.isChecked then document.take? source else none
  | .find table name descriptor =>
      match document.file.findMember table name descriptor with
      | .ok (some position) => some (.member ⟨document.identity, table, position⟩)
      | _ => none
  | .attach _ => none

/-- The call is not refused: an edit is done, or finds no room for a constant it has to add, and a
handle can be attached. -/
def GoesThrough (document : Document) : Call → Prop
  | .edit change =>
      (∃ answer, (document.perform change).result = .ok answer) ∨
        change.mayAdd = true ∧
          ∃ cause, (document.perform change).result = .error (.poolFull cause)
  | .attach handle => ∃ answer, Workspace.describe document handle = .ok answer
  | .take _ | .find _ _ _ => True

variable {document : Document} {call : Call}

/-- A call keeps the identity of the document and what handles need. -/
theorem after_retains (document : Document) (call : Call) :
    (call.after document).identity = document.identity ∧
      document.file.Retains (call.after document).file := by
  cases call with
  | edit change => exact document.perform_retains change
  | take | find | attach => exact ⟨rfl, .refl document.file⟩

theorem after_layout (layout : document.file.pool.Layout) (call : Call) :
    (call.after document).file.pool.Layout := by
  cases call with
  | edit change => exact Document.layout_perform change layout
  | take | find | attach => exact layout

/-- A checked handle is admitted when it is given. -/
theorem admits_of_gives? (layout : document.file.pool.Layout) {handle : Handle}
    (given : call.gives? document = some handle) :
    (call.after document).admits handle = true := by
  cases call with
  | edit change =>
      simp only [gives?] at given
      split at given
      · rename_i result_eq
        cases given
        exact Document.admits_of_perform layout result_eq
      · cases given
  | take source =>
      simp only [gives?] at given
      split at given
      · rename_i checked
        exact Document.admits_of_take? checked given
      · cases given
  | find table name descriptor =>
      simp only [gives?] at given
      split at given
      · rename_i position found
        cases given
        have inside := lt_of_firstMatch found
        rw [Nat.zero_add] at inside
        exact Document.admits_iff.mpr ⟨rfl, decide_eq_true inside⟩
      · cases given
  | attach handle => cases given

/-- A handle that the document admits can be attached to it. -/
theorem describe_of_admits {handle : Handle} (admitted : document.admits handle = true) :
    ∃ answer, Workspace.describe document handle = .ok answer := by
  rcases Document.admits_iff.mp admitted with ⟨owner_eq, addressed⟩
  have owned := Document.checkOwner_eq_ok_iff.mpr owner_eq
  cases handle with
  | classRef handle =>
      simp only [Handle.owner] at owned
      simp only [Workspace.describe, Document.classIndex, owned]
      exact ⟨_, rfl⟩
  | utf8 handle =>
      simp only [Handle.owner] at owned
      simp only [Workspace.describe, Document.utf8Index, owned]
      exact ⟨_, rfl⟩
  | member handle =>
      have inside := of_decide_eq_true addressed
      have checked := Document.checkMember_eq_ok_iff.mpr
        ⟨owner_eq, List.getElem?_eq_getElem inside⟩
      simp only [Workspace.describe, checked]
      exact ⟨_, rfl⟩

/-- A call whose handles are all admitted goes through. -/
theorem goesThrough_of_admits (admitted : ∀ handle ∈ call.handles, document.admits handle = true) :
    call.GoesThrough document := by
  cases call with
  | edit change =>
      have passed : document.firstFailure? change.handles = none :=
        Document.firstFailure?_eq_none_iff.mpr admitted
      rcases (document.perform_outcome change).ok_or_full passed with
        ⟨answer, succeeded⟩ | ⟨mayAdd, _, full⟩
      · exact .inl ⟨answer, succeeded⟩
      · exact .inr ⟨mayAdd, _, full⟩
  | attach handle => exact describe_of_admits (admitted handle List.mem_cons_self)
  | take | find => trivial

end Call

/-- A document with the checked handles that have been obtained from it. -/
structure Held where
  document : Document
  handles : List Handle

namespace Held

/-- A document from which no handle has been obtained yet. -/
def start (document : Document) : Held :=
  ⟨document, []⟩

/-- Make a call. -/
def call (held : Held) (call : Call) : Held :=
  ⟨call.after held.document, (call.gives? held.document).toList ++ held.handles⟩

/-- Make calls one after the other. -/
def run (held : Held) (calls : List Call) : Held :=
  calls.foldl Held.call held

/-- The constant pool is laid out properly, and the document admits all the handles. -/
structure Sound (held : Held) : Prop where
  layout : held.document.file.pool.Layout
  admitted : ∀ handle ∈ held.handles, held.document.admits handle = true

theorem sound_start {document : Document} (layout : document.file.pool.Layout) :
    (start document).Sound :=
  ⟨layout, fun _ mem => absurd mem List.not_mem_nil⟩

theorem Sound.call {held : Held} (sound : held.Sound) (call : Call) : (held.call call).Sound where
  layout := call.after_layout sound.layout
  admitted handle mem := by
    rcases List.mem_append.mp mem with new | old
    · exact Call.admits_of_gives? sound.layout (Option.mem_toList.mp new)
    · rcases call.after_retains held.document with ⟨identity_eq, retains⟩
      exact Document.admits_of_retains identity_eq retains (sound.admitted handle old)

theorem Sound.run {held : Held} (sound : held.Sound) (calls : List Call) :
    (held.run calls).Sound := by
  induction calls generalizing held with
  | nil => exact sound
  | cons call calls ih => exact ih (sound.call call)

/-- Handles that are held stay held, and what they need is kept. -/
theorem run_retains (held : Held) (calls : List Call) :
    held.document.file.Retains (held.run calls).document.file ∧
      ∀ handle ∈ held.handles, handle ∈ (held.run calls).handles := by
  induction calls generalizing held with
  | nil => exact ⟨.refl held.document.file, fun _ => id⟩
  | cons call calls ih =>
      rcases ih (held.call call) with ⟨later, stillHeld⟩
      refine ⟨(call.after_retains held.document).2.trans later, fun handle mem => ?_⟩
      exact stillHeld handle (List.mem_append_right _ mem)

end Held

/-- A handle leads to the same thing in two documents: to strings, to classes with one name index,
or to members at one position of tables that are equally long, with the same attributes. -/
def Handle.SameTarget (before after : Document) : Handle → Prop
  | .utf8 handle =>
      before.file.pool.isUtf8 handle.index = true ∧ after.file.pool.isUtf8 handle.index = true
  | .classRef handle => ∃ nameIndex,
      before.file.pool.get? handle.index = some (.classRef nameIndex) ∧
        after.file.pool.get? handle.index = some (.classRef nameIndex)
  | .member handle =>
      (after.file.table handle.table).length = (before.file.table handle.table).length ∧
        ∃ old new, (before.file.table handle.table)[handle.position]? = some old ∧
          (after.file.table handle.table)[handle.position]? = some new ∧
          new.attributes = old.attributes

theorem Handle.sameTarget_of_retains {before after : Document} {handle : Handle}
    (retains : before.file.Retains after.file) (admitted : before.admits handle = true) :
    handle.SameTarget before after := by
  have addressed := (Document.admits_iff.mp admitted).2
  cases handle with
  | utf8 handle => exact ⟨addressed, retains.utf8 _ addressed⟩
  | classRef handle =>
      rcases ConstantPool.isClass_iff.mp addressed with ⟨nameIndex, found⟩
      exact ⟨nameIndex, found, retains.classRef _ _ found⟩
  | member handle =>
      have length_eq := retains.length_table handle.table
      have inside := of_decide_eq_true addressed
      have insideAfter : handle.position < (after.file.table handle.table).length := by
        rwa [length_eq]
      refine ⟨length_eq, _, _, List.getElem?_eq_getElem inside,
        List.getElem?_eq_getElem insideAfter, ?_⟩
      have attributes := congrArg (·[handle.position]?) (retains.members handle.table)
      simpa [inside, insideAfter] using attributes

namespace Held

/-- Start with a document that can be reached in any way, and make any calls on it.  A call that is
given none but checked handles of this document goes through, and after any further calls each of
these handles still leads where it led. -/
theorem checked_handles_stay_good {document : Document} (reachable : document.Reachable)
    (calls : List Call) :
    (∀ call : Call, (∀ handle ∈ call.handles, handle ∈ ((start document).run calls).handles) →
        call.GoesThrough ((start document).run calls).document) ∧
      ∀ handle ∈ ((start document).run calls).handles, ∀ further : List Call,
        handle ∈ ((start document).run (calls ++ further)).handles ∧
          handle.SameTarget ((start document).run calls).document
            ((start document).run (calls ++ further)).document := by
  have sound : ((start document).run calls).Sound := (sound_start reachable.layout).run calls
  constructor
  · intro call held
    exact Call.goesThrough_of_admits fun handle mem => sound.admitted handle (held handle mem)
  · intro handle mem further
    have split : (start document).run (calls ++ further) =
        ((start document).run calls).run further := List.foldl_append
    rcases ((start document).run calls).run_retains further with ⟨retains, stillHeld⟩
    rw [split]
    exact ⟨stillHeld handle mem, Handle.sameTarget_of_retains retains (sound.admitted handle mem)⟩

/-- A string is added and made the name of a class, which becomes the super class and stays a class
of that name when the string is rewritten. -/
theorem checked_handles_stay_good_sample :
    let document : Document := ⟨⟨0⟩, Document.sampleFile⟩
    let calls : List Call := [.edit (.addUtf8 "B"), .edit (.addClass ⟨⟨0⟩, 5⟩)]
    let further : List Call :=
      [.edit (.setSuperClass (some ⟨⟨0⟩, 6⟩)), .edit (.setUtf8 ⟨⟨0⟩, 5⟩ "C")]
    document.Reachable ∧
      ((start document).run calls).handles = [.classRef ⟨⟨0⟩, 6⟩, .utf8 ⟨⟨0⟩, 5⟩] ∧
      (Call.edit (.setSuperClass (some ⟨⟨0⟩, 6⟩))).GoesThrough
        ((start document).run calls).document ∧
      (Handle.classRef ⟨⟨0⟩, 6⟩).SameTarget ((start document).run calls).document
        ((start document).run (calls ++ further)).document := by
  intro document calls further
  have opened : (Document.parse ⟨0⟩ .reject Document.sampleBytes).result = .ok document := rfl
  have reachable : document.Reachable := .opened opened
  have held : ((start document).run calls).handles = [.classRef ⟨⟨0⟩, 6⟩, .utf8 ⟨⟨0⟩, 5⟩] := rfl
  have good := checked_handles_stay_good reachable calls
  rw [held] at good
  refine ⟨reachable, held, good.1 _ ?_, (good.2 _ List.mem_cons_self further).2⟩
  intro handle mem
  rw [List.mem_singleton.mp mem]
  exact List.mem_cons_self

end Held

end ClassFormat

import ClassFormat.Proofs.Alterations
import ClassFormat.Proofs.ClassFileCodec
import ClassFormat.Proofs.EditChecks

/-!
# What an edit can do

An edit alters one thing in the class file (`Edit.alteration?`), or it looks for a constant and
appends it if there is none (`Edit.addition?`).  Before that its handles are checked, and the edit
is refused for the first check that fails.

`Document.perform_outcome` tells once for all edits what they give back, which document they leave
and what they report.  Whatever holds of all edits follows from it.
-/

namespace ClassFormat

/-! ## What edits are about -/

namespace Edit

/-- The alteration that an edit makes, if it does not add a constant. -/
def alteration? : Edit → Option Alteration
  | .setThisClass handle => some (.word .thisClass fun _ => handle.index)
  | .setSuperClass handle? => some (.word .superClass fun _ => handle?.elim 0 ClassHandle.index)
  | .setInterfaces handles => some (.interfaces (handles.map ClassHandle.index))
  | .setMemberName member name =>
      some (.word (.member member.table member.position .name) fun _ => name.index)
  | .setMemberDescriptor member descriptor =>
      some (.word (.member member.table member.position .descriptor) fun _ => descriptor.index)
  | .setUtf8 handle text => some (.utf8 handle.index (.ofString text))
  | .classFlags steps => some (.word .accessFlags (FlagStep.applyAll · steps))
  | .memberFlags member steps =>
      some (.word (.member member.table member.position .accessFlags) (FlagStep.applyAll · steps))
  | .addUtf8 _ | .addClass _ => none

/-- What an edit that makes an alteration gives back. -/
def answer (file : ClassFile) : Edit → EditAnswer
  | .classFlags steps => .flags .classFile (FlagStep.reports file.accessFlags steps)
  | .memberFlags member steps =>
      let bits := file.word? (.member member.table member.position .accessFlags)
      .flags member.table.context (FlagStep.reports (bits.getD 0) steps)
  | _ => .done

/-- What an edit reports before its handles are checked. -/
def announcement (identity : Identity) : Edit → List Event
  | .memberFlags member _ => [.editingMemberFlags identity member.table member.position]
  | _ => []

/-- What an edit that makes an alteration reports. -/
def events (document : Document) : Edit → List Event
  | .setThisClass handle =>
      [.setThisClass document.identity document.file.thisClass handle.index]
  | .setSuperClass handle? =>
      [.setSuperClass document.identity document.file.superClass
        (handle?.elim 0 ClassHandle.index)]
  | .setInterfaces handles =>
      [.setInterfaces document.identity (handles.map ClassHandle.index)]
  | .setMemberName member name =>
      let before := document.file.word? (.member member.table member.position .name)
      [.setMemberName document.identity member.table member.position (before.getD 0) name.index]
  | .setMemberDescriptor member descriptor =>
      let before := document.file.word? (.member member.table member.position .descriptor)
      [.setMemberDescriptor document.identity member.table member.position (before.getD 0)
        descriptor.index]
  | .setUtf8 handle text => [.replacedUtf8 document.identity handle.index text]
  | .classFlags steps =>
      .editingClassFlags document.identity ::
        Document.flagEvents document.file.accessFlags steps
  | .memberFlags member steps =>
      let bits := document.file.word? (.member member.table member.position .accessFlags)
      .editingMemberFlags document.identity member.table member.position ::
        Document.flagEvents (bits.getD 0) steps
  | .addUtf8 _ | .addClass _ => []

end Edit

/-- A constant that is to be there, with the handle for it and the event of appending it. -/
structure Addition where
  entry : Entry
  handle : Identity → UInt16 → Handle
  event : Identity → UInt16 → Event

/-- The constant that an edit looks for and appends if there is none. -/
def Edit.addition? : Edit → Option Addition
  | .addUtf8 text =>
      some
        { entry := .utf8 (.ofString text)
          handle := fun identity index => .utf8 ⟨identity, index⟩
          event := fun identity index => .addedUtf8 identity index text }
  | .addClass name =>
      some
        { entry := .classRef name.index
          handle := fun identity index => .classRef ⟨identity, index⟩
          event := fun identity index => .addedClass identity index name.index }
  | _ => none

/-- Whether an edit may have to append a constant. -/
def Edit.mayAdd : Edit → Bool
  | .addUtf8 _ | .addClass _ => true
  | _ => false

namespace Edit

variable {edit : Edit} {alteration : Alteration} {addition : Addition}

theorem mayAdd_of_alteration? (alters : edit.alteration? = some alteration) :
    edit.mayAdd = false := by
  cases edit with
  | addUtf8 | addClass => cases alters
  | _ => rfl

theorem mayAdd_of_addition? (adds : edit.addition? = some addition) : edit.mayAdd = true := by
  cases edit with
  | addUtf8 | addClass => rfl
  | _ => cases adds

/-- No edit both alters something and adds a constant. -/
theorem not_alters_and_adds (alters : edit.alteration? = some alteration)
    (adds : edit.addition? = some addition) : False := by
  have mayAdd := mayAdd_of_addition? adds
  rw [mayAdd_of_alteration? alters] at mayAdd
  cases mayAdd

/-- Edits add constants of one slot. -/
theorem isWide_of_addition? (adds : edit.addition? = some addition) :
    addition.entry.isWide = false := by
  cases edit with
  | addUtf8 | addClass =>
      cases adds
      rfl
  | _ => cases adds

end Edit

/-! ## Outcomes -/

theorem Edited.map_map {α β γ : Type} (edited : Edited α) (first : α → β) (second : β → γ) :
    (edited.map first).map second = edited.map (second ∘ first) := by
  unfold Edited.map
  cases edited.result with
  | error refusal => rfl
  | ok value => rfl

namespace Document

/-- The outcomes of an edit: it is refused for the first check that fails, it alters something, or
it finds a constant, appends it or has no room for it. -/
inductive Outcome (document : Document) (edit : Edit) : Edited EditAnswer → Prop where
  | refused {misuse : Misuse} (first : document.firstFailure? edit.handles = some misuse) :
      Outcome document edit
        ⟨.error (.misuse misuse), document, edit.announcement document.identity⟩
  | altered {alteration : Alteration} (passed : document.firstFailure? edit.handles = none)
      (alters : edit.alteration? = some alteration) :
      Outcome document edit
        ⟨.ok (edit.answer document.file),
          ⟨document.identity, document.file.alter alteration⟩, edit.events document⟩
  | found {addition : Addition} {index : UInt16}
      (passed : document.firstFailure? edit.handles = none)
      (adds : edit.addition? = some addition)
      (found : document.file.pool.indexOf? addition.entry = some index) :
      Outcome document edit
        ⟨.ok (.handle (addition.handle document.identity index)), document, []⟩
  | appended {addition : Addition} (passed : document.firstFailure? edit.handles = none)
      (adds : edit.addition? = some addition)
      (absent : document.file.pool.indexOf? addition.entry = none)
      (room : document.file.pool.hasRoom addition.entry = true) :
      Outcome document edit
        ⟨.ok (.handle (addition.handle document.identity document.file.pool.count)),
          { document with file.pool := document.file.pool.append addition.entry },
          [addition.event document.identity document.file.pool.count]⟩
  | full {addition : Addition} (passed : document.firstFailure? edit.handles = none)
      (adds : edit.addition? = some addition)
      (absent : document.file.pool.indexOf? addition.entry = none)
      (noRoom : document.file.pool.hasRoom addition.entry = false) :
      Outcome document edit ⟨.error (.poolFull {}), document, []⟩

variable {document : Document}

theorem firstFailure?_of_checks {α : Type} {checked : Except Misuse α} {handles : List Handle}
    (same : mistake? checked = document.firstFailure? handles) :
    (∀ misuse, checked = .error misuse → document.firstFailure? handles = some misuse) ∧
      ∀ value, checked = .ok value → document.firstFailure? handles = none := by
  constructor
  · rintro misuse rfl
    exact same.symm
  · rintro value rfl
    exact same.symm

theorem addUtf8_eq (text : String) :
    document.addUtf8 text =
      (document.findOrPush (document.file.pool.findUtf8? text) (.utf8 (.ofString text))
        fun index => .addedUtf8 document.identity index text).map
          (Utf8Handle.mk document.identity) :=
  rfl

theorem addClass_of_checked {name : Utf8Handle} {nameIndex : UInt16}
    (checked : document.checkUtf8 name = .ok nameIndex) :
    document.addClass name =
      (document.findOrPush (document.file.pool.findClass? nameIndex) (.classRef nameIndex)
        fun index => .addedClass document.identity index nameIndex).map
          (ClassHandle.mk document.identity) := by
  rw [addClass, checked]
  rfl

theorem Outcome.of_alters {edit : Edit} {edited : Edited EditAnswer} {alteration : Alteration}
    (alters : edit.alteration? = some alteration)
    (passed : document.firstFailure? edit.handles = none)
    (edited_eq : edited = ⟨.ok (edit.answer document.file),
      ⟨document.identity, document.file.alter alteration⟩, edit.events document⟩) :
    Outcome document edit edited := by
  rw [edited_eq]
  exact .altered passed alters

/-- Altering a word of a member that is there puts the changed member in its place. -/
theorem alter_member_of_found {handle : MemberHandle} {member : Member}
    (found : (document.file.table handle.table)[handle.position]? = some member)
    (part : MemberWord) (change : UInt16 → UInt16) :
    ⟨document.identity, document.file.alter
        (.word (.member handle.table handle.position part) change)⟩ =
      document.setMember handle (member.modifyWord change part) := by
  rw [ClassFile.alter, ClassFile.modifyWord, ClassFile.modifyMember_of_found found, setMember]

/-- A constant is found, or it is appended where there is room for it, or there is no room. -/
theorem findOrPush_cases (document : Document) (found? : Option UInt16) (entry : Entry)
    (added : UInt16 → Event) :
    (∃ index, found? = some index ∧
        document.findOrPush found? entry added = ⟨.ok index, document, []⟩) ∨
      found? = none ∧
        (document.file.pool.hasRoom entry = true ∧
            document.findOrPush found? entry added =
              ⟨.ok document.file.pool.count,
                { document with file.pool := document.file.pool.append entry },
                [added document.file.pool.count]⟩ ∨
          document.file.pool.hasRoom entry = false ∧
            document.findOrPush found? entry added = ⟨.error (.poolFull {}), document, []⟩) := by
  unfold findOrPush ConstantPool.push
  cases found? with
  | some index => exact .inl ⟨index, rfl, rfl⟩
  | none =>
      cases room : document.file.pool.hasRoom entry with
      | true => exact .inr ⟨rfl, .inl ⟨rfl, rfl⟩⟩
      | false => exact .inr ⟨rfl, .inr ⟨rfl, rfl⟩⟩

theorem Outcome.of_adds {edit : Edit} {edited : Edited EditAnswer} {addition : Addition}
    (adds : edit.addition? = some addition)
    (passed : document.firstFailure? edit.handles = none)
    (edited_eq : edited =
      (document.findOrPush (document.file.pool.indexOf? addition.entry) addition.entry
        (addition.event document.identity)).map fun index =>
          .handle (addition.handle document.identity index)) :
    Outcome document edit edited := by
  rcases document.findOrPush_cases (document.file.pool.indexOf? addition.entry) addition.entry
      (addition.event document.identity) with
    ⟨index, found, pushed⟩ | ⟨absent, ⟨room, pushed⟩ | ⟨noRoom, pushed⟩⟩
  · rw [edited_eq, pushed]
    exact .found passed adds found
  · rw [edited_eq, pushed]
    exact .appended passed adds absent room
  · rw [edited_eq, pushed]
    exact .full passed adds absent noRoom

/-- Every edit has one of the outcomes. -/
theorem perform_outcome (document : Document) (edit : Edit) :
    Outcome document edit (document.perform edit) := by
  cases edit with
  | setThisClass handle =>
      have checks := firstFailure?_of_checks (document.mistake?_checkClass handle)
      simp only [perform, setThisClass]
      cases checked : document.checkClass handle with
      | error misuse => exact .refused (checks.1 misuse checked)
      | ok index =>
          rcases checkClass_eq_ok_iff.mp checked with ⟨_, _, rfl⟩
          exact .of_alters rfl (checks.2 _ checked) rfl
  | setSuperClass handle? =>
      cases handle? with
      | none => exact .of_alters rfl rfl rfl
      | some handle =>
          have checks := firstFailure?_of_checks (document.mistake?_checkClass handle)
          simp only [perform, setSuperClass, Option.elim_some]
          cases checked : document.checkClass handle with
          | error misuse => exact .refused (checks.1 misuse checked)
          | ok index =>
              rcases checkClass_eq_ok_iff.mp checked with ⟨_, _, rfl⟩
              exact .of_alters rfl (checks.2 _ checked) rfl
  | setInterfaces handles =>
      have checks := firstFailure?_of_checks (document.mistake?_mapM_checkClass handles)
      simp only [perform, setInterfaces]
      cases checked : handles.mapM document.checkClass with
      | error misuse => exact .refused (checks.1 misuse checked)
      | ok indices =>
          obtain rfl := indices_of_mapM_checkClass checked
          exact .of_alters rfl (checks.2 _ checked) rfl
  | setMemberName handle name =>
      have checks := firstFailure?_of_checks (document.mistake?_checkNaming handle name)
      simp only [perform, setMemberName]
      cases checked : document.checkNaming handle name with
      | error misuse => exact .refused (checks.1 misuse checked)
      | ok naming =>
          obtain ⟨index, member⟩ := naming
          obtain ⟨rfl, found⟩ := found_of_checkNaming checked
          refine .of_alters rfl (checks.2 _ checked) ?_
          rw [alter_member_of_found found, Edit.events, ClassFile.word?, found]
          rfl
  | setMemberDescriptor handle descriptor =>
      have checks := firstFailure?_of_checks (document.mistake?_checkNaming handle descriptor)
      simp only [perform, setMemberDescriptor]
      cases checked : document.checkNaming handle descriptor with
      | error misuse => exact .refused (checks.1 misuse checked)
      | ok naming =>
          obtain ⟨index, member⟩ := naming
          obtain ⟨rfl, found⟩ := found_of_checkNaming checked
          refine .of_alters rfl (checks.2 _ checked) ?_
          rw [alter_member_of_found found, Edit.events, ClassFile.word?, found]
          rfl
  | setUtf8 handle text =>
      have checks := firstFailure?_of_checks (document.mistake?_checkUtf8 handle)
      simp only [perform, setUtf8]
      cases checked : document.checkUtf8 handle with
      | error misuse => exact .refused (checks.1 misuse checked)
      | ok index =>
          rcases checkUtf8_eq_ok_iff.mp checked with ⟨_, _, rfl⟩
          exact .of_alters rfl (checks.2 _ checked) rfl
  | addUtf8 text =>
      rw [perform, addUtf8_eq, Edited.map_map]
      exact .of_adds rfl rfl rfl
  | addClass name =>
      have checks := firstFailure?_of_checks (document.mistake?_checkUtf8 name)
      cases checked : document.checkUtf8 name with
      | error misuse =>
          simp only [perform, addClass, checked]
          exact .refused (checks.1 misuse checked)
      | ok nameIndex =>
          rcases checkUtf8_eq_ok_iff.mp checked with ⟨_, _, rfl⟩
          rw [perform, addClass_of_checked checked, Edited.map_map]
          exact .of_adds rfl (checks.2 _ checked) rfl
  | classFlags steps => exact .of_alters rfl rfl rfl
  | memberFlags handle steps =>
      have checks := firstFailure?_of_checks (document.mistake?_checkMember handle)
      simp only [perform, editMemberFlags]
      cases checked : document.checkMember handle with
      | error misuse => exact .refused (checks.1 misuse checked)
      | ok member =>
          have found := (checkMember_eq_ok_iff.mp checked).2
          refine .of_alters rfl (checks.2 _ checked) ?_
          rw [alter_member_of_found found, Edit.answer, Edit.events, ClassFile.word?, found]
          rfl

/-! ## Refusals and answers -/

section Outcome

variable {edit : Edit} {edited : Edited EditAnswer} (outcome : Outcome document edit edited)
include outcome

theorem Outcome.misuse_iff {misuse : Misuse} :
    edited.result = .error (.misuse misuse) ↔
      document.firstFailure? edit.handles = some misuse := by
  cases outcome with
  | refused first => simp [first]
  | altered passed | found passed | appended passed | full passed => simp [passed]

/-- An edit that does not succeed leaves the document as it is. -/
theorem Outcome.document_of_error {refusal : Refusal} (failed : edited.result = .error refusal) :
    edited.document = document := by
  cases outcome with
  | refused | full => rfl
  | altered | found | appended => cases failed

/-- An edit that succeeds was given handles that pass. -/
theorem Outcome.passed_of_ok {answer : EditAnswer} (succeeded : edited.result = .ok answer) :
    document.firstFailure? edit.handles = none := by
  cases outcome with
  | refused | full => cases succeeded
  | altered passed | found passed | appended passed => exact passed

/-- An edit whose handles pass succeeds, unless it has to append a constant and there is no room. -/
theorem Outcome.ok_or_full (passed : document.firstFailure? edit.handles = none) :
    (∃ answer, edited.result = .ok answer) ∨
      edit.mayAdd = true ∧ 65535 ≤ document.file.pool.slots.size ∧
        edited.result = .error (.poolFull {}) := by
  cases outcome with
  | refused first =>
      rw [passed] at first
      cases first
  | altered | found | appended => exact .inl ⟨_, rfl⟩
  | @full addition _ adds _ noRoom =>
      have width_eq : addition.entry.width = 1 := by
        rw [Entry.width, Edit.isWide_of_addition? adds]
        rfl
      simp only [ConstantPool.hasRoom, width_eq, decide_eq_false_iff_not] at noRoom
      exact .inr ⟨Edit.mayAdd_of_addition? adds, by omega, rfl⟩

end Outcome

/-- An edit is refused exactly if the document does not admit one of its handles. -/
theorem perform_misuse_iff {edit : Edit} :
    (∃ misuse, (document.perform edit).result = .error (.misuse misuse)) ↔
      ∃ handle ∈ edit.handles, document.admits handle = false := by
  simp only [(document.perform_outcome edit).misuse_iff]
  rw [← Option.isSome_iff_exists, ← Option.ne_none_iff_isSome, Ne, firstFailure?_eq_none_iff]
  simp

/-- An edit that succeeds was given handles that the document admits. -/
theorem admits_of_perform_eq_ok {edit : Edit} {answer : EditAnswer}
    (given : (document.perform edit).result = .ok answer) :
    ∀ handle ∈ edit.handles, document.admits handle = true :=
  firstFailure?_eq_none_iff.mp ((document.perform_outcome edit).passed_of_ok given)

section Alteration

variable {edit : Edit} {alteration : Alteration}

theorem perform_document (document : Document) (alters : edit.alteration? = some alteration) :
    (document.perform edit).document =
      if document.firstFailure? edit.handles = none then
        ⟨document.identity, document.file.alter alteration⟩
      else document := by
  have outcome := document.perform_outcome edit
  generalize document.perform edit = edited at outcome ⊢
  cases outcome with
  | refused first => rw [first, if_neg nofun]
  | altered passed altersThis =>
      cases alters.symm.trans altersThis
      rw [if_pos passed]
  | found _ adds | appended _ adds | full _ adds =>
      exact (Edit.not_alters_and_adds alters adds).elim

theorem perform_result (document : Document) (alters : edit.alteration? = some alteration) :
    (document.perform edit).result =
      match document.firstFailure? edit.handles with
      | some misuse => .error (.misuse misuse)
      | none => .ok (edit.answer document.file) := by
  have outcome := document.perform_outcome edit
  generalize document.perform edit = edited at outcome ⊢
  cases outcome with
  | refused first => rw [first]
  | altered passed _ => rw [passed]
  | found _ adds | appended _ adds | full _ adds =>
      exact (Edit.not_alters_and_adds alters adds).elim

theorem exists_member_of_addresses {handle : MemberHandle}
    (addressed : document.addresses (.member handle) = true) :
    ∃ member, (document.file.table handle.table)[handle.position]? = some member :=
  ⟨_, List.getElem?_eq_getElem (of_decide_eq_true addressed)⟩

theorem word?_of_admits {handle : MemberHandle} (part : MemberWord)
    (admitted : document.admits (.member handle) = true) :
    ∃ word, document.file.word? (.member handle.table handle.position part) = some word := by
  rcases exists_member_of_addresses (admits_iff.mp admitted).2 with ⟨member, found⟩
  exact ⟨_, congrArg (Option.map (Member.word · part)) found⟩

/-- A document that admits the handles of an edit has what the edit alters. -/
theorem has_of_admits (alters : edit.alteration? = some alteration)
    (admitted : ∀ handle ∈ edit.handles, document.admits handle = true) :
    document.file.Has alteration := by
  cases edit with
  | setThisClass | setSuperClass | classFlags =>
      cases alters
      exact ⟨_, rfl⟩
  | setInterfaces =>
      cases alters
      trivial
  | setMemberName member | setMemberDescriptor member =>
      cases alters
      exact word?_of_admits _ (admitted (.member member) (.tail _ (.head _)))
  | memberFlags member =>
      cases alters
      exact word?_of_admits _ (admitted (.member member) (.head _))
  | setUtf8 handle =>
      cases alters
      exact ConstantPool.isUtf8_iff.mp (admits_iff.mp (admitted (.utf8 handle) (.head _))).2
  | addUtf8 | addClass => cases alters

end Alteration

end Document

/-! ## What an edit changes -/

/-- Storing a constant in the place of another one changes that slot and no other. -/
theorem ConstantPool.getElem?_slots_set {pool : ConstantPool} {index : UInt16} {current : Entry}
    (found : pool.get? index = some current) (entry : Entry) (position : Nat) :
    (pool.set index entry).slots[position]? =
      if position = index.toNat then some (.filled entry) else pool.slots[position]? := by
  have inside := (Array.getElem?_eq_some_iff.mp (get?_eq_some_iff.mp found)).1
  unfold set
  by_cases same : position = index.toNat
  · rw [if_pos same, same, Array.getElem?_setIfInBounds_self_of_lt inside]
  · rw [if_neg same, Array.getElem?_setIfInBounds_ne (Ne.symm same)]

namespace Document

variable {document : Document} {edit : Edit}

end Document

end ClassFormat

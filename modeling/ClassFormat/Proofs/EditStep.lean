import ClassFormat.Proofs.EditOutcomes

/-!
# Steps of edits

Edits are performed one after the other.  Each takes a step on the class file
(`ClassFile.EditStep`), with what its checks tell about the indices it stores, and what every step
keeps, every run of edits keeps (`Document.performAll_induction`).
-/

namespace ClassFormat

/-- Everything that an edit can do to a class file. -/
inductive ClassFile.EditStep (file : ClassFile) : ClassFile → Prop where
  | unchanged : EditStep file file
  | thisClass {index : UInt16} (isClass : file.pool.isClass index = true) :
      EditStep file { file with thisClass := index }
  | superClass {index : UInt16} (isClass : index = 0 ∨ file.pool.isClass index = true) :
      EditStep file { file with superClass := index }
  | interfaces {indices : List UInt16}
      (areClasses : ∀ index ∈ indices, file.pool.isClass index = true) :
      EditStep file { file with interfaces := indices }
  | memberName {table : MemberTable} {position : Nat} {member : Member} {index : UInt16}
      (found : (file.table table)[position]? = some member)
      (isUtf8 : file.pool.isUtf8 index = true) :
      EditStep file (file.withTable table
        ((file.table table).set position { member with nameIndex := index }))
  | memberDescriptor {table : MemberTable} {position : Nat} {member : Member} {index : UInt16}
      (found : (file.table table)[position]? = some member)
      (isUtf8 : file.pool.isUtf8 index = true) :
      EditStep file (file.withTable table
        ((file.table table).set position { member with descriptorIndex := index }))
  | memberFlags {table : MemberTable} {position : Nat} {member : Member} (bits : UInt16)
      (found : (file.table table)[position]? = some member) :
      EditStep file (file.withTable table
        ((file.table table).set position { member with accessFlags := bits }))
  | classFlags (bits : UInt16) : EditStep file { file with accessFlags := bits }
  | setUtf8 {index : UInt16} (string : ModifiedUtf8) (isUtf8 : file.pool.isUtf8 index = true) :
      EditStep file { file with pool := file.pool.set index (.utf8 string) }
  | addUtf8 {string : ModifiedUtf8} (room : file.pool.hasRoom (.utf8 string) = true) :
      EditStep file { file with pool := file.pool.append (.utf8 string) }
  | addClass {nameIndex : UInt16} (isUtf8 : file.pool.isUtf8 nameIndex = true)
      (room : file.pool.hasRoom (.classRef nameIndex) = true) :
      EditStep file { file with pool := file.pool.append (.classRef nameIndex) }

namespace Document

variable {document : Document} {edit : Edit}

theorem addresses_of_admits {handle : Handle}
    (admitted : ∀ handle ∈ edit.handles, document.admits handle = true)
    (mem : handle ∈ edit.handles) : document.addresses handle = true :=
  (admits_iff.mp (admitted handle mem)).2

/-- An alteration by an edit whose handles are admitted is a step. -/
theorem step_of_alters {alteration : Alteration} (alters : edit.alteration? = some alteration)
    (admitted : ∀ handle ∈ edit.handles, document.admits handle = true) :
    document.file.EditStep (document.file.alter alteration) := by
  have addressed (handle : Handle) := @addresses_of_admits document edit handle admitted
  cases edit with
  | setThisClass handle =>
      cases alters
      exact .thisClass (addressed (.classRef handle) (.head _))
  | setSuperClass handle? =>
      cases alters
      cases handle? with
      | none => exact .superClass (.inl rfl)
      | some handle => exact .superClass (.inr (addressed (.classRef handle) (.head _)))
  | setInterfaces handles =>
      cases alters
      refine .interfaces fun index mem => ?_
      rcases List.mem_map.mp mem with ⟨handle, given, rfl⟩
      exact addressed (.classRef handle) (List.mem_map_of_mem given)
  | setMemberName handle name =>
      cases alters
      have isUtf8 := addressed (.utf8 name) (.head _)
      rcases exists_member_of_addresses (addressed (.member handle) (.tail _ (.head _))) with
        ⟨member, found⟩
      rw [ClassFile.alter, ClassFile.modifyWord, ClassFile.modifyMember_of_found found]
      exact .memberName found isUtf8
  | setMemberDescriptor handle descriptor =>
      cases alters
      have isUtf8 := addressed (.utf8 descriptor) (.head _)
      rcases exists_member_of_addresses (addressed (.member handle) (.tail _ (.head _))) with
        ⟨member, found⟩
      rw [ClassFile.alter, ClassFile.modifyWord, ClassFile.modifyMember_of_found found]
      exact .memberDescriptor found isUtf8
  | setUtf8 handle text =>
      cases alters
      exact .setUtf8 _ (addressed (.utf8 handle) (.head _))
  | classFlags steps =>
      cases alters
      exact .classFlags _
  | memberFlags handle steps =>
      cases alters
      rcases exists_member_of_addresses (addressed (.member handle) (.head _)) with
        ⟨member, found⟩
      rw [ClassFile.alter, ClassFile.modifyWord, ClassFile.modifyMember_of_found found]
      exact .memberFlags _ found
  | addUtf8 | addClass => cases alters

/-- Appending a constant, by an edit whose handles are admitted, is a step. -/
theorem step_of_adds {addition : Addition} (adds : edit.addition? = some addition)
    (admitted : ∀ handle ∈ edit.handles, document.admits handle = true)
    (room : document.file.pool.hasRoom addition.entry = true) :
    document.file.EditStep
      { document.file with pool := document.file.pool.append addition.entry } := by
  cases edit with
  | addUtf8 text =>
      cases adds
      exact .addUtf8 room
  | addClass name =>
      cases adds
      have isUtf8 : document.addresses (.utf8 name) = true :=
        addresses_of_admits admitted (.head _)
      exact .addClass isUtf8 room
  | _ => cases adds

/-- An edit takes one step and keeps the identity of the document. -/
theorem perform_step (document : Document) (edit : Edit) :
    ∃ file, document.file.EditStep file ∧
      (document.perform edit).document = ⟨document.identity, file⟩ := by
  have outcome := document.perform_outcome edit
  generalize document.perform edit = edited at outcome ⊢
  cases outcome with
  | refused | found | full => exact ⟨document.file, .unchanged, rfl⟩
  | altered passed alters =>
      exact ⟨_, step_of_alters alters (firstFailure?_eq_none_iff.mp passed), rfl⟩
  | appended passed adds _ room =>
      exact ⟨_, step_of_adds adds (firstFailure?_eq_none_iff.mp passed) room, rfl⟩

/-- Perform edits one after the other.  Edits that are refused are passed over. -/
def performAll (document : Document) (edits : List Edit) : Document :=
  edits.foldl (fun document edit => (document.perform edit).document) document

/-- What every step keeps, a run of edits keeps. -/
theorem performAll_induction {Keeps : ClassFile → Prop}
    (step : ∀ ⦃before after⦄, ClassFile.EditStep before after → Keeps before → Keeps after)
    (document : Document) (edits : List Edit) (start : Keeps document.file) :
    Keeps (document.performAll edits).file := by
  induction edits generalizing document with
  | nil => exact start
  | cons edit edits ih =>
      rcases document.perform_step edit with ⟨file, taken, document_eq⟩
      change Keeps ((document.perform edit).document.performAll edits).file
      rw [document_eq]
      exact ih ⟨document.identity, file⟩ (step taken start)

end Document

end ClassFormat

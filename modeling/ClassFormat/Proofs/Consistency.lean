import ClassFormat.Proofs.ClassFileCodec
import ClassFormat.Proofs.EditStep
import ClassFormat.Summary
import ClassFormat.Workspace.Command

/-!
# Consistent class files

A class file is consistent if every index in its tables leads to a constant of the right kind, and
the name of every class constant, used or not, leads to a string.  The last condition is needed
because an edit may point a table to any class constant and checks only that it is one.

Edits keep a class file consistent, and a consistent class file can be asked for all its names and
descriptors and has a summary.
-/

namespace ClassFormat

/-- The indices of a member lead to strings. -/
structure Member.Resolves (pool : ConstantPool) (member : Member) : Prop where
  name : pool.isUtf8 member.nameIndex = true
  descriptor : pool.isUtf8 member.descriptorIndex = true
  attributes : ∀ item ∈ member.attributes, pool.isUtf8 item.nameIndex = true

/-- The indices of a class file lead to constants of the right kinds. -/
structure ClassFile.Consistent (file : ClassFile) : Prop where
  thisClass : file.pool.isClass file.thisClass = true
  superClass : file.superClass = 0 ∨ file.pool.isClass file.superClass = true
  interfaces : ∀ index ∈ file.interfaces, file.pool.isClass index = true
  /-- The name of every class constant of the pool leads to a string. -/
  classNames : ∀ nameIndex, .filled (.classRef nameIndex) ∈ file.pool.slots →
    file.pool.isUtf8 nameIndex = true
  members : ∀ table, ∀ member ∈ file.table table, member.Resolves file.pool
  attributes : ∀ item ∈ file.attributes, file.pool.isUtf8 item.nameIndex = true

/-! ## Edits keep consistency -/

theorem Member.Resolves.mono {pool next : ConstantPool} {member : Member}
    (resolves : member.Resolves pool) (larger : pool.Extends next) : member.Resolves next where
  name := larger.utf8 _ resolves.name
  descriptor := larger.utf8 _ resolves.descriptor
  attributes item mem := larger.utf8 _ (resolves.attributes item mem)

namespace ClassFile

theorem Consistent.withPool {file : ClassFile} {next : ConstantPool} (consistent : file.Consistent)
    (larger : file.pool.Extends next) : Consistent { file with pool := next } where
  thisClass := larger.classRef _ consistent.thisClass
  superClass := consistent.superClass.imp_right (larger.classRef _)
  interfaces index mem := larger.classRef _ (consistent.interfaces index mem)
  classNames nameIndex mem := by
    rcases larger.newClass nameIndex mem with old | found
    · exact larger.utf8 _ (consistent.classNames nameIndex old)
    · exact larger.utf8 _ found
  members table member mem := by
    have old : member ∈ file.table table := by cases table <;> exact mem
    exact (consistent.members table member old).mono larger
  attributes item mem := larger.utf8 _ (consistent.attributes item mem)

theorem Consistent.setMember {file : ClassFile} {changed : MemberTable} {position : Nat}
    {member : Member} (consistent : file.Consistent) (resolves : member.Resolves file.pool) :
    (file.withTable changed ((file.table changed).set position member)).Consistent := by
  have members : ∀ table, ∀ other ∈
      (file.withTable changed ((file.table changed).set position member)).table table,
      other.Resolves file.pool := by
    intro table other mem
    rw [table_withTable] at mem
    split at mem
    · rcases List.mem_or_eq_of_mem_set mem with old | rfl
      · exact consistent.members changed other old
      · exact resolves
    · exact consistent.members table other mem
  cases changed with
  | fields => exact { consistent with members }
  | methods => exact { consistent with members }

/-- Whatever an edit does, it keeps the class file consistent. -/
theorem EditStep.consistent {before after : ClassFile} (step : before.EditStep after)
    (consistent : before.Consistent) : after.Consistent := by
  cases step with
  | unchanged => exact consistent
  | thisClass isClass =>
      exact { consistent with thisClass := isClass, members := consistent.members }
  | superClass isClass =>
      exact { consistent with superClass := isClass, members := consistent.members }
  | interfaces areClasses =>
      exact { consistent with interfaces := areClasses, members := consistent.members }
  | classFlags bits => exact { consistent with members := consistent.members }
  | memberName found isUtf8 =>
      have resolves := consistent.members _ _ (List.mem_of_getElem? found)
      exact consistent.setMember { resolves with name := isUtf8 }
  | memberDescriptor found isUtf8 =>
      have resolves := consistent.members _ _ (List.mem_of_getElem? found)
      exact consistent.setMember { resolves with descriptor := isUtf8 }
  | memberFlags bits found =>
      have resolves := consistent.members _ _ (List.mem_of_getElem? found)
      exact consistent.setMember { resolves with }
  | setUtf8 string isUtf8 => exact consistent.withPool (ConstantPool.extends_set_utf8 isUtf8)
  | addUtf8 room => exact consistent.withPool (ConstantPool.extends_append nofun)
  | addClass isUtf8 room =>
      apply consistent.withPool (ConstantPool.extends_append _)
      rintro _ ⟨⟩
      exact isUtf8

/-! ## Names and descriptors -/

/-- A name or a descriptor that the views of a class file can be asked for. -/
inductive Accessor where
  | thisClass
  | superClass
  | interface (position : Nat)
  /-- The name of the class constant at an index. -/
  | classAt (index : UInt16)
  /-- The text of the string constant at an index. -/
  | utf8At (index : UInt16)
  | memberName (table : MemberTable) (position : Nat)
  | memberDescriptor (table : MemberTable) (position : Nat)
  | attributeName (holder : AttributeHolder) (position : Nat)

/-- What an accessor gives, if the class file has the thing that is asked. -/
def access? (file : ClassFile) : Accessor → Option (Except Misuse String)
  | .thisClass => some (file.pool.className file.thisClass)
  | .superClass =>
      if file.superClass = 0 then none else some (file.pool.className file.superClass)
  | .interface position => file.interfaces[position]?.map file.pool.className
  | .classAt index =>
      if file.pool.isClass index then some (file.pool.className index) else none
  | .utf8At index => if file.pool.isUtf8 index then some (file.pool.text index) else none
  | .memberName table position =>
      (file.table table)[position]?.map fun member => file.pool.text member.nameIndex
  | .memberDescriptor table position =>
      (file.table table)[position]?.map fun member => file.pool.text member.descriptorIndex
  | .attributeName holder position =>
      (file.attributesOf? holder).bind fun attributes =>
        attributes[position]?.map fun item => file.pool.text item.nameIndex

section Consistent

variable {file : ClassFile} (consistent : file.Consistent)
include consistent

theorem Consistent.className_eq_ok {index : UInt16} (isClass : file.pool.isClass index = true) :
    ∃ text, file.pool.className index = .ok text := by
  rcases ConstantPool.isClass_iff.mp isClass with ⟨nameIndex, found⟩
  have named : file.pool.isUtf8 nameIndex = true :=
    consistent.classNames nameIndex (ConstantPool.mem_slots_of_get?_eq_some found)
  rcases ConstantPool.text_eq_ok_of_isUtf8 named with ⟨text, text_eq⟩
  rw [ConstantPool.className, ConstantPool.classNameIndex_eq_ok_iff.mpr found]
  exact ⟨text, text_eq⟩

theorem Consistent.attributesOf {holder : AttributeHolder} {attributes : List Attribute}
    (held : file.attributesOf? holder = some attributes) :
    ∀ item ∈ attributes, file.pool.isUtf8 item.nameIndex = true := by
  cases holder with
  | classFile =>
      cases held
      exact consistent.attributes
  | member table position =>
      rcases Option.map_eq_some_iff.mp held with ⟨member, found, rfl⟩
      exact (consistent.members table member (List.mem_of_getElem? found)).attributes

/-- Every name and every descriptor of a consistent class file can be asked for. -/
theorem Consistent.access_eq_ok {accessor : Accessor} {outcome : Except Misuse String}
    (asked : file.access? accessor = some outcome) : ∃ text, outcome = .ok text := by
  cases accessor with
  | thisClass =>
      cases asked
      exact consistent.className_eq_ok consistent.thisClass
  | superClass =>
      simp only [access?] at asked
      split at asked
      · cases asked
      · rename_i nonzero
        cases asked
        exact consistent.className_eq_ok (consistent.superClass.resolve_left nonzero)
  | interface position =>
      rcases Option.map_eq_some_iff.mp asked with ⟨index, found, rfl⟩
      exact consistent.className_eq_ok
        (consistent.interfaces index (List.mem_of_getElem? found))
  | classAt index =>
      simp only [access?] at asked
      split at asked
      · rename_i isClass
        cases asked
        exact consistent.className_eq_ok isClass
      · cases asked
  | utf8At index =>
      simp only [access?] at asked
      split at asked
      · rename_i isUtf8
        cases asked
        exact ConstantPool.text_eq_ok_of_isUtf8 isUtf8
      · cases asked
  | memberName table position =>
      rcases Option.map_eq_some_iff.mp asked with ⟨member, found, rfl⟩
      exact ConstantPool.text_eq_ok_of_isUtf8
        (consistent.members table member (List.mem_of_getElem? found)).name
  | memberDescriptor table position =>
      rcases Option.map_eq_some_iff.mp asked with ⟨member, found, rfl⟩
      exact ConstantPool.text_eq_ok_of_isUtf8
        (consistent.members table member (List.mem_of_getElem? found)).descriptor
  | attributeName holder position =>
      rcases Option.bind_eq_some_iff.mp asked with ⟨attributes, held, chosen⟩
      rcases Option.map_eq_some_iff.mp chosen with ⟨item, found, rfl⟩
      exact ConstantPool.text_eq_ok_of_isUtf8
        (consistent.attributesOf held item (List.mem_of_getElem? found))

end Consistent

end ClassFile

/-! ## Summaries -/

namespace Summary

variable {pool : ConstantPool}

theorem utf8_eq_ok_iff {index : UInt16} {text : String} :
    utf8 pool index = .ok text ↔ pool.text index = .ok text := by
  unfold utf8 ConstantPool.text ConstantPool.utf8
  cases pool.get? index with
  | none => simp [Except.map]
  | some entry => cases entry <;> simp [Entry.utf8?, Except.map]

theorem className_eq_ok_iff {index : UInt16} {text : String} :
    className pool index = .ok text ↔ pool.className index = .ok text := by
  unfold className ConstantPool.className ConstantPool.classNameIndex
  cases pool.get? index with
  | none => simp [Except.bind]
  | some entry => cases entry <;> simp [Entry.classNameIndex?, Except.bind, utf8_eq_ok_iff]

theorem utf8_eq_ok_of_isUtf8 {index : UInt16} (isUtf8 : pool.isUtf8 index = true) :
    ∃ text, utf8 pool index = .ok text := by
  rcases ConstantPool.text_eq_ok_of_isUtf8 isUtf8 with ⟨text, text_eq⟩
  exact ⟨text, utf8_eq_ok_iff.mpr text_eq⟩

theorem attributeNames_eq_ok {attributes : List Attribute}
    (areUtf8 : ∀ item ∈ attributes, pool.isUtf8 item.nameIndex = true) :
    ∃ text, attributeNames pool attributes = .ok text := by
  rcases mapM_eq_ok_of_forall (fun item mem => utf8_eq_ok_of_isUtf8 (areUtf8 item mem)) with
    ⟨names, names_eq⟩
  rw [attributeNames, names_eq]
  exact ⟨_, rfl⟩

theorem memberLine_eq_ok {member : Member} (context : FlagContext)
    (resolves : member.Resolves pool) : ∃ line, memberLine pool context member = .ok line := by
  rcases utf8_eq_ok_of_isUtf8 resolves.name with ⟨name, name_eq⟩
  rcases utf8_eq_ok_of_isUtf8 resolves.descriptor with ⟨descriptor, descriptor_eq⟩
  rcases attributeNames_eq_ok resolves.attributes with ⟨attributes, attributes_eq⟩
  rw [memberLine, name_eq, descriptor_eq, attributes_eq]
  exact ⟨_, rfl⟩

theorem memberLines_eq_ok {members : List Member} (table : MemberTable)
    (resolve : ∀ member ∈ members, member.Resolves pool) :
    ∃ lines, memberLines pool table members = .ok lines := by
  unfold memberLines
  split
  · exact ⟨_, rfl⟩
  · rcases mapM_eq_ok_of_forall
      (fun member mem => memberLine_eq_ok table.context (resolve member mem)) with
      ⟨lines, lines_eq⟩
    rw [lines_eq]
    exact ⟨_, rfl⟩

end Summary

namespace ClassFile

theorem Consistent.summaryName_eq_ok {file : ClassFile} (consistent : file.Consistent)
    {index : UInt16} (isClass : file.pool.isClass index = true) :
    ∃ text, Summary.className file.pool index = .ok text := by
  rcases consistent.className_eq_ok isClass with ⟨text, text_eq⟩
  exact ⟨text, Summary.className_eq_ok_iff.mpr text_eq⟩

/-- A consistent class file has a summary. -/
theorem Consistent.summary_eq_ok {file : ClassFile} (consistent : file.Consistent) :
    ∃ text, file.summary = .ok text := by
  rcases consistent.summaryName_eq_ok consistent.thisClass with ⟨thisClass, thisClass_eq⟩
  rcases mapM_eq_ok_of_forall
    (fun index mem => consistent.summaryName_eq_ok (consistent.interfaces index mem)) with
    ⟨interfaces, interfaces_eq⟩
  rcases Summary.memberLines_eq_ok .fields (consistent.members .fields) with ⟨fields, fields_eq⟩
  rcases Summary.memberLines_eq_ok .methods (consistent.members .methods) with
    ⟨methods, methods_eq⟩
  rcases Summary.attributeNames_eq_ok consistent.attributes with ⟨attributes, attributes_eq⟩
  simp only [table] at fields_eq methods_eq
  simp only [summary, thisClass_eq, interfaces_eq, fields_eq, methods_eq, attributes_eq]
  by_cases root : file.superClass = 0
  · simp only [if_pos root]
    exact ⟨_, rfl⟩
  · rcases consistent.summaryName_eq_ok (consistent.superClass.resolve_left root) with
      ⟨superClass, superClass_eq⟩
    simp only [if_neg root, superClass_eq]
    exact ⟨_, rfl⟩

end ClassFile

namespace Document

/-- Edits with any handles, refused ones included, keep a class file consistent.  All its names
and descriptors can then be asked for, and it has a summary. -/
theorem consistent_performAll (document : Document) (consistent : document.file.Consistent)
    (edits : List Edit) :
    (document.performAll edits).file.Consistent ∧
      (∀ accessor outcome, (document.performAll edits).file.access? accessor = some outcome →
        ∃ text, outcome = .ok text) ∧
      ∃ text, (document.performAll edits).file.summary = .ok text := by
  have kept : (document.performAll edits).file.Consistent :=
    performAll_induction (fun _ _ step => step.consistent) document edits consistent
  exact ⟨kept, fun _ _ asked => kept.access_eq_ok asked, kept.summary_eq_ok⟩

theorem consistent_sampleFile : sampleFile.Consistent where
  thisClass := rfl
  superClass := .inl rfl
  interfaces index mem := by
    rw [List.mem_singleton.mp mem]
    rfl
  classNames nameIndex mem := by
    have named : nameIndex = 3 := by simpa [sampleFile] using mem
    rw [named]
    rfl
  members table := by
    cases table with
    | fields =>
        intro member mem
        have only : member = ⟨2, 3, 3, [⟨3, [0xFF]⟩]⟩ := by
          simpa [sampleFile, ClassFile.table] using mem
        rw [only]
        exact ⟨rfl, rfl, by decide⟩
    | methods => exact nofun
  attributes := nofun

/-- The second edit is refused: its handle belongs to another document. -/
theorem consistent_performAll_sample :
    let edited := performAll ⟨⟨0⟩, sampleFile⟩
      [.setSuperClass (some ⟨⟨0⟩, 4⟩), .setThisClass ⟨⟨1⟩, 4⟩, .addClass ⟨⟨0⟩, 3⟩]
    sampleFile.Consistent ∧ edited.file.Consistent ∧
      (∃ text, edited.file.pool.className 4 = .ok text) ∧
      ∃ text, edited.file.summary = .ok text := by
  have kept := consistent_performAll ⟨⟨0⟩, sampleFile⟩ consistent_sampleFile
    [.setSuperClass (some ⟨⟨0⟩, 4⟩), .setThisClass ⟨⟨1⟩, 4⟩, .addClass ⟨⟨0⟩, 3⟩]
  exact ⟨consistent_sampleFile, kept.1, kept.2.1 .superClass _ rfl, kept.2.2⟩

end Document

end ClassFormat

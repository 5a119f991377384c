import ClassFormat.Document.Edit
import ClassFormat.Proofs.Resolution

/-!
# The checks of an edit

An edit is given handles, and every handle is put to two checks: it has to belong to the document,
and it has to lead to something of its sort.  The checks that edits make end with the first of these
that fails, in the order of `Edit.handles` (`Document.firstFailure?`).
-/

namespace ClassFormat

/-! ## Handles that pass -/

namespace Document

variable {document : Document}

theorem checkOwner_eq_ok_iff {owner : Identity} :
    document.checkOwner owner = .ok () ↔ owner = document.identity := by
  unfold checkOwner
  split
  · rename_i same
    simp [same]
  · rename_i different
    simp [different]

theorem checkClass_eq_ok_iff {handle : ClassHandle} {index : UInt16} :
    document.checkClass handle = .ok index ↔
      handle.owner = document.identity ∧ document.file.pool.isClass handle.index = true ∧
        index = handle.index := by
  rw [← checkOwner_eq_ok_iff, ConstantPool.isClass_iff]
  simp only [← ConstantPool.classNameIndex_eq_ok_iff, checkClass]
  cases document.checkOwner handle.owner with
  | error misuse => simp [bind, Except.bind]
  | ok done =>
      cases document.file.pool.classNameIndex handle.index with
      | error misuse => simp [bind, Except.bind]
      | ok nameIndex => simp [bind, Except.bind, pure, Except.pure, eq_comm]

theorem checkUtf8_eq_ok_iff {handle : Utf8Handle} {index : UInt16} :
    document.checkUtf8 handle = .ok index ↔
      handle.owner = document.identity ∧ document.file.pool.isUtf8 handle.index = true ∧
        index = handle.index := by
  rw [← checkOwner_eq_ok_iff, ConstantPool.isUtf8_iff]
  simp only [← ConstantPool.utf8_eq_ok_iff, checkUtf8]
  cases document.checkOwner handle.owner with
  | error misuse => simp [bind, Except.bind]
  | ok done =>
      cases document.file.pool.utf8 handle.index with
      | error misuse => simp [bind, Except.bind]
      | ok string => simp [bind, Except.bind, pure, Except.pure, eq_comm]

theorem checkMember_eq_ok_iff {handle : MemberHandle} {member : Member} :
    document.checkMember handle = .ok member ↔
      handle.owner = document.identity ∧
        (document.file.table handle.table)[handle.position]? = some member := by
  rw [← checkOwner_eq_ok_iff, checkMember]
  cases document.checkOwner handle.owner with
  | error misuse => simp [bind, Except.bind]
  | ok done =>
      cases (document.file.table handle.table)[handle.position]? with
      | none => simp [bind, Except.bind, throw, throwThe, MonadExceptOf.throw]
      | some member => simp [bind, Except.bind, pure, Except.pure]

theorem checkNaming_eq_ok_iff {handle : MemberHandle} {string : Utf8Handle} {index : UInt16}
    {member : Member} :
    document.checkNaming handle string = .ok (index, member) ↔
      document.checkUtf8 string = .ok index ∧ document.checkMember handle = .ok member := by
  unfold checkNaming
  cases document.checkUtf8 string with
  | error misuse => simp [bind, Except.bind]
  | ok actual =>
      cases document.checkMember handle with
      | error misuse => simp [bind, Except.bind]
      | ok found => simp [bind, Except.bind, pure, Except.pure]

end Document

/-! ## Checks of handles -/

/-- A check of a handle. -/
inductive Check where
  /-- The handle belongs to the document. -/
  | ownedBy (owner : Identity)
  /-- The index leads to a class. -/
  | classAt (index : UInt16)
  /-- The index leads to a string. -/
  | utf8At (index : UInt16)
  /-- The table has a member at the position. -/
  | memberAt (table : MemberTable) (position : Nat)

/-- What a check reports about a document if it fails. -/
def Check.failure? (document : Document) : Check → Option Misuse
  | .ownedBy owner =>
      if owner = document.identity then none else some (.foreign owner document.identity)
  | .classAt index =>
      match document.file.pool.get? index with
      | some (.classRef _) => none
      | some entry => some (.wrongKind index entry.kind .classRef)
      | none => some (.missingConstant index .classRef)
  | .utf8At index =>
      match document.file.pool.get? index with
      | some (.utf8 _) => none
      | some entry => some (.wrongKind index entry.kind .utf8)
      | none => some (.missingConstant index .utf8)
  | .memberAt table position =>
      if position < (document.file.table table).length then none
      else some (.missingMember table position document.identity)

/-- The checks of a handle, in order. -/
def Handle.checks : Handle → List Check
  | .classRef handle => [.ownedBy handle.owner, .classAt handle.index]
  | .utf8 handle => [.ownedBy handle.owner, .utf8At handle.index]
  | .member handle => [.ownedBy handle.owner, .memberAt handle.table handle.position]

/-- The handles that an edit is given, in the order in which they are checked. -/
def Edit.handles : Edit → List Handle
  | .setThisClass handle => [.classRef handle]
  | .setSuperClass handle? => handle?.toList.map .classRef
  | .setInterfaces handles => handles.map .classRef
  | .setMemberName member name => [.utf8 name, .member member]
  | .setMemberDescriptor member descriptor => [.utf8 descriptor, .member member]
  | .setUtf8 handle _ => [.utf8 handle]
  | .addUtf8 _ => []
  | .addClass name => [.utf8 name]
  | .classFlags _ => []
  | .memberFlags member _ => [.member member]

namespace Document

/-- What the first failing check of a list of handles reports. -/
def firstFailure? (document : Document) (handles : List Handle) : Option Misuse :=
  (handles.flatMap Handle.checks).findSome? (Check.failure? document)

/-- Whether a handle leads to something of its sort. -/
def addresses (document : Document) : Handle → Bool
  | .classRef handle => document.file.pool.isClass handle.index
  | .utf8 handle => document.file.pool.isUtf8 handle.index
  | .member handle => handle.position < (document.file.table handle.table).length

/-- Whether a handle belongs to the document and leads to something of its sort. -/
def admits (document : Document) (handle : Handle) : Bool :=
  handle.owner = document.identity && document.addresses handle

variable {document : Document}

@[simp]
theorem firstFailure?_nil : document.firstFailure? [] = none :=
  rfl

theorem firstFailure?_cons (handle : Handle) (handles : List Handle) :
    document.firstFailure? (handle :: handles) =
      (document.firstFailure? [handle]).or (document.firstFailure? handles) := by
  simp [firstFailure?, List.findSome?_append]

/-- The owner of a handle is checked before anything else about it. -/
theorem firstFailure?_pair {handle : Handle} {first second : Check}
    (checks : handle.checks = [first, second]) :
    document.firstFailure? [handle] =
      (first.failure? document).or (second.failure? document) := by
  simp only [firstFailure?, checks, List.flatMap_cons, List.flatMap_nil, List.append_nil,
    List.findSome?_cons, List.findSome?_nil]
  cases first.failure? document with
  | some misuse => rfl
  | none => cases second.failure? document <;> rfl

theorem ownedBy_failure?_eq_none_iff {owner : Identity} :
    (Check.ownedBy owner).failure? document = none ↔ owner = document.identity := by
  simp only [Check.failure?]
  by_cases same : owner = document.identity
  · simp [same]
  · simp [same]

theorem classAt_failure?_eq_none_iff {index : UInt16} :
    (Check.classAt index).failure? document = none ↔
      document.file.pool.isClass index = true := by
  simp only [Check.failure?, ConstantPool.isClass]
  cases document.file.pool.get? index with
  | none => simp
  | some entry => cases entry <;> simp [Entry.classNameIndex?]

theorem utf8At_failure?_eq_none_iff {index : UInt16} :
    (Check.utf8At index).failure? document = none ↔ document.file.pool.isUtf8 index = true := by
  simp only [Check.failure?, ConstantPool.isUtf8]
  cases document.file.pool.get? index with
  | none => simp
  | some entry => cases entry <;> simp [Entry.utf8?]

theorem memberAt_failure?_eq_none_iff {table : MemberTable} {position : Nat} :
    (Check.memberAt table position).failure? document = none ↔
      position < (document.file.table table).length := by
  simp only [Check.failure?]
  by_cases inside : position < (document.file.table table).length
  · simp [inside]
  · simp [inside]

theorem admits_iff {handle : Handle} :
    document.admits handle = true ↔
      handle.owner = document.identity ∧ document.addresses handle = true := by
  simp [admits]

theorem firstFailure?_singleton_eq_none_iff {handle : Handle} :
    document.firstFailure? [handle] = none ↔ document.admits handle = true := by
  rw [admits_iff]
  cases handle with
  | classRef handle =>
      rw [firstFailure?_pair rfl, Option.or_eq_none_iff, ownedBy_failure?_eq_none_iff,
        classAt_failure?_eq_none_iff]
      rfl
  | utf8 handle =>
      rw [firstFailure?_pair rfl, Option.or_eq_none_iff, ownedBy_failure?_eq_none_iff,
        utf8At_failure?_eq_none_iff]
      rfl
  | member handle =>
      rw [firstFailure?_pair rfl, Option.or_eq_none_iff, ownedBy_failure?_eq_none_iff,
        memberAt_failure?_eq_none_iff]
      simp [addresses, Handle.owner]

/-- No check of some handles fails exactly if the document admits all of them. -/
theorem firstFailure?_eq_none_iff {handles : List Handle} :
    document.firstFailure? handles = none ↔
      ∀ handle ∈ handles, document.admits handle = true := by
  induction handles with
  | nil => simp
  | cons handle handles ih =>
      rw [firstFailure?_cons, Option.or_eq_none_iff, firstFailure?_singleton_eq_none_iff, ih,
        List.forall_mem_cons]

theorem checkUtf8_of_admits {name : Utf8Handle} (admitted : document.admits (.utf8 name) = true) :
    document.checkUtf8 name = .ok name.index := by
  rcases admits_iff.mp admitted with ⟨owner_eq, isUtf8⟩
  exact checkUtf8_eq_ok_iff.mpr ⟨owner_eq, isUtf8, rfl⟩

/-! ## The checks of the edits -/

/-- The mistake that a check ended with. -/
def mistake? {α : Type} : Except Misuse α → Option Misuse
  | .error misuse => some misuse
  | .ok _ => none

theorem mistake?_bind {α β : Type} {checked : Except Misuse α} {next : α → Except Misuse β}
    {last : Option Misuse} (same : ∀ value, mistake? (next value) = last) :
    mistake? (checked >>= next) = (mistake? checked).or last := by
  cases checked with
  | error misuse => rfl
  | ok value => exact same value

theorem mistake?_checkOwner (owner : Identity) :
    mistake? (document.checkOwner owner) = (Check.ownedBy owner).failure? document := by
  simp only [checkOwner, Check.failure?]
  split <;> rfl

theorem mistake?_classNameIndex (index : UInt16) :
    mistake? (document.file.pool.classNameIndex index) =
      (Check.classAt index).failure? document := by
  simp only [ConstantPool.classNameIndex, Check.failure?]
  cases document.file.pool.get? index with
  | none => rfl
  | some entry => cases entry <;> rfl

theorem mistake?_utf8 (index : UInt16) :
    mistake? (document.file.pool.utf8 index) = (Check.utf8At index).failure? document := by
  simp only [ConstantPool.utf8, Check.failure?]
  cases document.file.pool.get? index with
  | none => rfl
  | some entry => cases entry <;> rfl

theorem mistake?_checkClass (handle : ClassHandle) :
    mistake? (document.checkClass handle) = document.firstFailure? [.classRef handle] := by
  rw [firstFailure?_pair rfl, ← mistake?_checkOwner, ← mistake?_classNameIndex]
  apply mistake?_bind
  intro _
  cases document.file.pool.classNameIndex handle.index <;> rfl

theorem mistake?_checkUtf8 (handle : Utf8Handle) :
    mistake? (document.checkUtf8 handle) = document.firstFailure? [.utf8 handle] := by
  rw [firstFailure?_pair rfl, ← mistake?_checkOwner, ← mistake?_utf8]
  apply mistake?_bind
  intro _
  cases document.file.pool.utf8 handle.index <;> rfl

theorem mistake?_checkMember (handle : MemberHandle) :
    mistake? (document.checkMember handle) = document.firstFailure? [.member handle] := by
  rw [firstFailure?_pair rfl, ← mistake?_checkOwner]
  apply mistake?_bind
  intro _
  simp only [Check.failure?]
  by_cases inside : handle.position < (document.file.table handle.table).length
  · rw [if_pos inside, List.getElem?_eq_getElem inside]
    rfl
  · rw [if_neg inside, List.getElem?_eq_none (Nat.le_of_not_lt inside)]
    rfl

theorem mistake?_checkNaming (handle : MemberHandle) (string : Utf8Handle) :
    mistake? (document.checkNaming handle string) =
      document.firstFailure? [.utf8 string, .member handle] := by
  rw [firstFailure?_cons, ← mistake?_checkUtf8, ← mistake?_checkMember]
  apply mistake?_bind
  intro _
  cases document.checkMember handle <;> rfl

theorem mistake?_mapM_checkClass (handles : List ClassHandle) :
    mistake? (handles.mapM document.checkClass) =
      document.firstFailure? (handles.map .classRef) := by
  induction handles with
  | nil => rfl
  | cons handle handles ih =>
      rw [List.map_cons, firstFailure?_cons, ← mistake?_checkClass, ← ih, List.mapM_cons]
      apply mistake?_bind
      intro _
      cases handles.mapM document.checkClass <;> rfl

/-- Class handles that pass the checks give their indices in order. -/
theorem indices_of_mapM_checkClass {handles : List ClassHandle} {indices : List UInt16}
    (checked : handles.mapM document.checkClass = .ok indices) :
    indices = handles.map ClassHandle.index := by
  replace checked := mapM_eq_ok_iff.mp checked
  induction checked with
  | nil => rfl
  | cons head _ ih =>
      rcases checkClass_eq_ok_iff.mp head with ⟨_, _, rfl⟩
      rw [List.map_cons, ih]

/-- A member and a string that pass the checks give the member and the index of the string. -/
theorem found_of_checkNaming {handle : MemberHandle} {string : Utf8Handle} {index : UInt16}
    {member : Member} (checked : document.checkNaming handle string = .ok (index, member)) :
    index = string.index ∧
      (document.file.table handle.table)[handle.position]? = some member := by
  rcases checkNaming_eq_ok_iff.mp checked with ⟨stringChecked, memberChecked⟩
  rcases checkUtf8_eq_ok_iff.mp stringChecked with ⟨_, _, rfl⟩
  exact ⟨rfl, (checkMember_eq_ok_iff.mp memberChecked).2⟩

end Document

end ClassFormat

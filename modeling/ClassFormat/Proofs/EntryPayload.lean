import ClassFormat.Proofs.EntryGrammar

/-!
# Constants and their payloads

Every payload of the right length makes a constant of a given kind, and the constant gives the
payload back.  A payload of another length is refused, and how depends only on whether it is too
short or too long (`Entry.ofPayload_eq_error_iff`).

So a constant is the same as its kind with a payload of the right length.  Comparing kinds and
payloads therefore tells constants apart exactly as comparing their fields or the bytes they write.
-/

namespace ClassFormat

namespace Entry

variable {kind : Kind} {bytes : Bytes} {length : Nat}

/-! ## Payloads of the wrong length -/

theorem ofPayload_of_short (fixed : kind.payloadLength? = some length)
    (short : bytes.length < length) : ofPayload kind bytes = .error .unexpectedEnd := by
  rw [ofPayload, (fields_takes fixed).short short]

theorem ofPayload_of_long (fixed : kind.payloadLength? = some length)
    (long : length < bytes.length) :
    ofPayload kind bytes = .error (.malformed .longPayload) := by
  rcases (fields_takes fixed).enough (Nat.le_of_lt long) with ⟨entry, read⟩
  cases left : bytes.drop length with
  | nil => exact absurd (List.drop_eq_nil_iff.mp left) (Nat.not_le_of_lt long)
  | cons byte rest => rw [ofPayload, read, left]

theorem exists_ofPayload_iff :
    (∃ entry, ofPayload kind bytes = .ok entry) ↔
      kind = .utf8 ∨ kind.payloadLength? = some bytes.length := by
  constructor
  · rintro ⟨entry, made⟩
    obtain ⟨rfl, rfl⟩ := ofPayload_eq_ok_iff.mp made
    cases fixed : entry.kind.payloadLength? with
    | none => exact .inl (payloadLength?_eq_none_iff.mp fixed)
    | some length => exact .inr (congrArg some (length_payload fixed).symm)
  · intro rightLength
    have fixed : ∀ length, kind.payloadLength? = some length → bytes.length = length := by
      intro length fixed
      rcases rightLength with rfl | same
      · cases fixed
      · exact Option.some.inj (same.symm.trans fixed)
    rcases exists_of_payload fixed with ⟨entry, kind_eq, payload_eq⟩
    exact ⟨entry, ofPayload_eq_ok_iff.mpr ⟨kind_eq, payload_eq⟩⟩

/-- A payload is refused for being shorter or for being longer than its kind says. -/
theorem ofPayload_eq_error_iff {error : DecodeError} :
    ofPayload kind bytes = .error error ↔
      ∃ length, kind.payloadLength? = some length ∧
        (bytes.length < length ∧ error = .unexpectedEnd ∨
          length < bytes.length ∧ error = .malformed .longPayload) := by
  constructor
  · intro refused
    have wrongLength : ¬ (kind = .utf8 ∨ kind.payloadLength? = some bytes.length) := by
      rw [← exists_ofPayload_iff]
      rintro ⟨entry, made⟩
      rw [made] at refused
      cases refused
    cases fixed : kind.payloadLength? with
    | none => exact absurd (.inl (payloadLength?_eq_none_iff.mp fixed)) wrongLength
    | some length =>
        refine ⟨length, rfl, ?_⟩
        rcases Nat.lt_trichotomy bytes.length length with short | same | long
        · rw [ofPayload_of_short fixed short] at refused
          exact .inl ⟨short, (Except.error.inj refused).symm⟩
        · rw [fixed, same] at wrongLength
          exact absurd (.inr rfl) wrongLength
        · rw [ofPayload_of_long fixed long] at refused
          exact .inr ⟨long, (Except.error.inj refused).symm⟩
  · rintro ⟨length, fixed, ⟨short, rfl⟩ | ⟨long, rfl⟩⟩
    · exact ofPayload_of_short fixed short
    · exact ofPayload_of_long fixed long

/-! ## Equality -/

/-- Constants that are written are the same exactly if they write the same bytes. -/
theorem eq_iff_of_writes {left right : Entry} {front back : Bytes}
    (wroteLeft : left.emission.Writes front) (wroteRight : right.emission.Writes back) :
    left = right ↔ front = back := by
  constructor
  · rintro rfl
    exact wroteLeft.2.trans wroteRight.2.symm
  · rintro rfl
    have readLeft : decoder front = .ok left [] :=
      decoder_reads.eq_ok_iff.mpr ⟨front, wroteLeft, (List.append_nil front).symm⟩
    have readRight : decoder front = .ok right [] :=
      decoder_reads.eq_ok_iff.mpr ⟨front, wroteRight, (List.append_nil front).symm⟩
    rw [readLeft] at readRight
    exact (EStateM.Result.ok.inj readRight).1

/-- A payload makes a constant of a kind exactly if it has the right length, and the constant has
that kind and that payload; otherwise it is too short or too long and refused as such.  Every
constant is made from its kind and payload.  Constants compare equal exactly if they have the same
form and the same fields, and, if both can be written, exactly if they write the same bytes. -/
theorem payload_codec :
    (∀ (kind : Kind) (bytes : Bytes),
      ((∃ entry, ofPayload kind bytes = .ok entry) ↔
        kind = .utf8 ∨ kind.payloadLength? = some bytes.length) ∧
      (∀ entry, ofPayload kind bytes = .ok entry → entry.kind = kind ∧ entry.payload = bytes) ∧
      (ofPayload kind bytes = .error .unexpectedEnd ↔
        ∃ length, kind.payloadLength? = some length ∧ bytes.length < length) ∧
      (∀ defect, ofPayload kind bytes = .error (.malformed defect) ↔
        defect = .longPayload ∧
          ∃ length, kind.payloadLength? = some length ∧ length < bytes.length)) ∧
    (∀ entry : Entry, ofPayload entry.kind entry.payload = .ok entry ∧
      ∀ length, entry.kind.payloadLength? = some length → entry.payload.length = length) ∧
    ∀ left right : Entry,
      ((left == right) = true ↔ left = right) ∧
        ∀ front back, left.emission.toGrowing = ⟨front, .ok ()⟩ →
          right.emission.toGrowing = ⟨back, .ok ()⟩ → ((left == right) = true ↔ front = back) := by
  refine ⟨fun kind bytes => ⟨exists_ofPayload_iff, fun _ => ofPayload_eq_ok_iff.mp, ?_, ?_⟩,
    fun entry => ⟨ofPayload_eq_ok_iff.mpr ⟨rfl, rfl⟩, fun _ => length_payload⟩,
    fun left right => ⟨beq_iff_eq, ?_⟩⟩
  · simp [ofPayload_eq_error_iff]
  · intro defect
    simp only [ofPayload_eq_error_iff, reduceCtorEq, and_false, false_or,
      DecodeError.malformed.injEq]
    constructor
    · rintro ⟨length, fixed, long, rfl⟩
      exact ⟨rfl, length, fixed, long⟩
    · rintro ⟨rfl, length, fixed, long⟩
      exact ⟨length, fixed, long, rfl⟩
  · intro front back wroteLeft wroteRight
    rw [beq_iff_eq]
    exact eq_iff_of_writes (Emission.toGrowing_eq_ok_iff.mp wroteLeft)
      (Emission.toGrowing_eq_ok_iff.mp wroteRight)

/-- Seven bytes and nine bytes are no long, and eight are one.  Two floats that are not a number
differ if a bit of them does, though both are written. -/
theorem payload_codec_sample :
    (Kind.long.payloadLength? = some 8 ∧
        ofPayload .long (List.replicate 7 0xFF) = .error .unexpectedEnd ∧
        ofPayload .long (List.replicate 9 0xFF) = .error (.malformed .longPayload) ∧
        ofPayload .long (List.replicate 8 0xFF) = .ok (.long (-1)) ∧
        (Entry.long (-1)).payload = List.replicate 8 0xFF) ∧
      (Entry.float 0x7FC00000).emission.toGrowing = ⟨[4, 0x7F, 0xC0, 0, 0], .ok ()⟩ ∧
      (Entry.float 0x7FC00001).emission.toGrowing = ⟨[4, 0x7F, 0xC0, 0, 1], .ok ()⟩ ∧
      (Entry.float 0x7FC00000 == Entry.float 0x7FC00001) = false := by
  have sevens := (payload_codec.1 .long (List.replicate 7 0xFF)).2.2.1
  have nines := (payload_codec.1 .long (List.replicate 9 0xFF)).2.2.2 .longPayload
  have eights := (payload_codec.1 .long (List.replicate 8 0xFF)).2.1 (.long (-1)) rfl
  have compared := (payload_codec.2.2 (.float 0x7FC00000) (.float 0x7FC00001)).2 _ _ rfl rfl
  refine ⟨⟨rfl, sevens.mpr ⟨8, rfl, by decide⟩, nines.mpr ⟨rfl, 8, rfl, by decide⟩, rfl,
    eights.2⟩, rfl, rfl, ?_⟩
  rw [Bool.eq_false_iff, Ne, compared]
  decide

end Entry

end ClassFormat

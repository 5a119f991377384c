import ClassFormat.Constant.Entry
import ClassFormat.Proofs.Format

/-!
# Constants are read as they are written

The payload of a constant and its kind determine the constant, and every payload of the right
length belongs to one (`Entry.ofPayload_eq_ok_iff`).  Together with its tag, and for a string its
length, the payload delimits itself, so a constant is read exactly as it is written.
-/

namespace ClassFormat

namespace Entry

theorem isWide_iff {entry : Entry} :
    entry.isWide = true ↔ (∃ value, entry = .long value) ∨ ∃ bits, entry = .double bits := by
  cases entry <;> simp [isWide, kind, Kind.isWide]

theorem width_eq_one_or_two (entry : Entry) : entry.width = 1 ∨ entry.width = 2 := by
  unfold width
  split
  · exact .inr rfl
  · exact .inl rfl

/-! ## Payloads -/

/-- Reading the fields of a kind gives a constant of that kind whose payload stands in front of the
input.  A string takes the whole input. -/
theorem fields_eq_ok_iff {kind : Kind} {input rest : Bytes} {entry : Entry} :
    fields kind input = .ok entry rest ↔
      entry.kind = kind ∧ input = entry.payload ++ rest ∧ (kind = .utf8 → rest = []) := by
  constructor
  · intro decoded
    cases kind with
    | utf8 =>
        cases decoded
        exact ⟨rfl, (List.append_nil _).symm, fun _ => rfl⟩
    | integer | float | long | double | classRef | stringRef | methodType | moduleRef
    | packageRef =>
        simp only [fields, Decoder.bind_eq_ok_iff, Decoder.pure_eq_ok_iff,
          Decoder.word16_eq_ok_iff, Decoder.word32_eq_ok_iff, Decoder.word64_eq_ok_iff] at decoded
        obtain ⟨value, _, rfl, rfl, rfl⟩ := decoded
        simp [Entry.kind, payload]
    | fieldRef | methodRef | interfaceMethodRef | nameAndType | methodHandle | dynamic
    | invokeDynamic =>
        simp only [fields, Decoder.bind_eq_ok_iff, Decoder.pure_eq_ok_iff,
          Decoder.byte_eq_ok_iff, Decoder.word16_eq_ok_iff] at decoded
        obtain ⟨first, _, rfl, second, _, rfl, rfl, rfl⟩ := decoded
        simp [Entry.kind, payload]
  · rintro ⟨rfl, rfl, whole⟩
    cases entry with
    | utf8 string =>
        obtain rfl := whole rfl
        simp [fields, Entry.kind, payload]
    | integer | float | long | double | classRef | stringRef | methodType | moduleRef
    | packageRef =>
        simp only [fields, Entry.kind, Decoder.bind_eq_ok_iff, Decoder.pure_eq_ok_iff,
          Decoder.word16_eq_ok_iff, Decoder.word32_eq_ok_iff, Decoder.word64_eq_ok_iff]
        exact ⟨_, rest, rfl, rfl, rfl⟩
    | fieldRef | methodRef | interfaceMethodRef | nameAndType | methodHandle | dynamic
    | invokeDynamic =>
        simp only [fields, Entry.kind, Decoder.bind_eq_ok_iff, Decoder.pure_eq_ok_iff,
          Decoder.byte_eq_ok_iff, Decoder.word16_eq_ok_iff]
        exact ⟨_, _, rfl, _, rest, rfl, rfl, rfl⟩

/-- A payload gives a constant exactly if it is the payload of that constant and the kinds
agree. -/
theorem ofPayload_eq_ok_iff {kind : Kind} {bytes : Bytes} {entry : Entry} :
    ofPayload kind bytes = .ok entry ↔ entry.kind = kind ∧ entry.payload = bytes := by
  unfold ofPayload
  constructor
  · intro made
    split at made
    · rename_i decoded
      cases made
      obtain ⟨kind_eq, rfl, _⟩ := fields_eq_ok_iff.mp decoded
      exact ⟨kind_eq, (List.append_nil _).symm⟩
    · cases made
    · cases made
  · rintro ⟨rfl, rfl⟩
    have decoded : fields entry.kind entry.payload = .ok entry [] :=
      fields_eq_ok_iff.mpr ⟨rfl, (List.append_nil _).symm, fun _ => rfl⟩
    rw [decoded]

/-- A constant is determined by its kind and its payload. -/
theorem eq_of_payload_eq {left right : Entry} (kind_eq : left.kind = right.kind)
    (payload_eq : left.payload = right.payload) : left = right := by
  have made : ofPayload right.kind right.payload = .ok left :=
    ofPayload_eq_ok_iff.mpr ⟨kind_eq, payload_eq⟩
  rw [ofPayload_eq_ok_iff.mpr ⟨rfl, rfl⟩] at made
  exact (Except.ok.inj made).symm

theorem beq_iff {left right : Entry} :
    (left == right) = true ↔ left.kind = right.kind ∧ left.payload = right.payload := by
  change (left.kind == right.kind && left.payload == right.payload) = true ↔ _
  rw [Bool.and_eq_true, beq_iff_eq, beq_iff_eq]

instance : LawfulBEq Entry where
  rfl := beq_iff.mpr ⟨rfl, rfl⟩
  eq_of_beq same := eq_of_payload_eq (beq_iff.mp same).1 (beq_iff.mp same).2

/-- The payload has the length that its kind fixes. -/
theorem length_payload {entry : Entry} {length : Nat}
    (fixed : entry.kind.payloadLength? = some length) : entry.payload.length = length := by
  cases entry <;> simp_all [kind, Kind.payloadLength?, payload]

theorem payloadLength?_eq_none_iff {kind : Kind} : kind.payloadLength? = none ↔ kind = .utf8 := by
  cases kind <;> simp [Kind.payloadLength?]

/-! ## Whole constants -/

/-- The bytes between the tag and the payload: the length of a string. -/
def lengthField (entry : Entry) : Bytes :=
  match entry.kind.payloadLength? with
  | some _ => []
  | none => Bytes.ofUInt16 entry.payload.length.toUInt16

/-- The bytes of a constant that is not too long. -/
def bytes (entry : Entry) : Bytes :=
  entry.kind.tag :: (entry.lengthField ++ entry.payload)

/-- Whether the length field of a constant can hold the length of its payload. -/
def Fits (entry : Entry) : Prop :=
  entry.kind = .utf8 → entry.payload.length < 0x10000

private theorem emission_of_kind_ne_utf8 {entry : Entry} (notUtf8 : entry.kind ≠ .utf8) :
    entry.emission = [.bytes [entry.kind.tag], .bytes entry.payload] := by
  cases entry with
  | utf8 => exact absurd rfl notUtf8
  | _ => rfl

theorem lengthField_of_kind_ne_utf8 {entry : Entry} (notUtf8 : entry.kind ≠ .utf8) :
    entry.lengthField = [] := by
  unfold lengthField
  cases fixed : entry.kind.payloadLength? with
  | none => exact absurd (payloadLength?_eq_none_iff.mp fixed) notUtf8
  | some length => rfl

/-- A constant writes its tag, its length if it is a string, and its payload. -/
theorem writes_emission {entry : Entry} {written : Bytes} :
    entry.emission.Writes written ↔ entry.Fits ∧ written = entry.bytes := by
  by_cases isUtf8 : entry.kind = .utf8
  · cases entry with
    | utf8 string =>
        simp only [emission, Fits, bytes, lengthField, kind, payload, Kind.payloadLength?]
        split
        · rename_i fits
          simp [fits]
        · rename_i overlong
          simp [overlong]
    | _ => cases isUtf8
  · rw [emission_of_kind_ne_utf8 isUtf8, bytes, lengthField_of_kind_ne_utf8 isUtf8]
    simp [Fits, isUtf8]

private theorem payloadLength_eq_ok_iff {entry : Entry} (fits : entry.Fits)
    {input rest : Bytes} :
    payloadLength entry.kind input = .ok entry.payload.length rest ↔
      input = entry.lengthField ++ rest := by
  unfold payloadLength lengthField
  cases fixed : entry.kind.payloadLength? with
  | some length => simp [Decoder.pure_eq_ok_iff, length_payload fixed]
  | none =>
      have small := fits (payloadLength?_eq_none_iff.mp fixed)
      simp only [Decoder.bind_eq_ok_iff, Decoder.word16_eq_ok_iff, Decoder.pure_eq_ok_iff]
      constructor
      · rintro ⟨length, _, rfl, lengthEq, rfl⟩
        rw [← lengthEq]
        exact congrArg (fun word => Bytes.ofUInt16 word ++ _) UInt16.ofNat_toNat.symm
      · rintro rfl
        exact ⟨_, rest, rfl, UInt16.toNat_ofNat_of_lt' small, rfl⟩

private theorem fits_of_payloadLength_eq_ok {entry : Entry} {length : Nat} {input rest : Bytes}
    (decoded : payloadLength entry.kind input = .ok length rest)
    (lengthEq : entry.payload.length = length) : entry.Fits := by
  intro isUtf8
  simp only [payloadLength, payloadLength?_eq_none_iff.mpr isUtf8, Decoder.bind_eq_ok_iff,
    Decoder.pure_eq_ok_iff] at decoded
  obtain ⟨word, _, _, rfl, rfl⟩ := decoded
  rw [lengthEq]
  exact word.toNat_lt

/-- A constant is read exactly as it is written. -/
theorem decoder_reads : decoder.Reads emission := by
  intro input rest entry
  simp only [writes_emission, decoder, Decoder.bind_eq_ok_iff, Decoder.byte_eq_ok_iff]
  constructor
  · rintro ⟨tag, _, rfl, decoded⟩
    cases known : Kind.ofTag? tag with
    | none =>
        rw [known] at decoded
        exact absurd decoded Decoder.throw_ne_ok
    | some kind =>
        obtain rfl := Kind.ofTag?_eq_some_iff.mp known
        rw [known] at decoded
        simp only [Decoder.bind_eq_ok_iff, Decoder.take_eq_ok_iff] at decoded
        obtain ⟨length, afterLength, lengthRead, payload, _, ⟨payloadLength, rfl⟩, made⟩ := decoded
        cases result : ofPayload kind payload with
        | error error =>
            rw [result] at made
            exact absurd made Decoder.throw_ne_ok
        | ok actual =>
            rw [result] at made
            obtain ⟨rfl, rfl⟩ := Decoder.pure_eq_ok_iff.mp made
            obtain ⟨rfl, rfl⟩ := ofPayload_eq_ok_iff.mp result
            have fits := fits_of_payloadLength_eq_ok lengthRead payloadLength
            subst payloadLength
            obtain rfl := (payloadLength_eq_ok_iff fits).mp lengthRead
            exact ⟨actual.bytes, ⟨fits, rfl⟩, by simp [bytes]⟩
  · rintro ⟨_, ⟨fits, rfl⟩, rfl⟩
    refine ⟨entry.kind.tag, _, rfl, ?_⟩
    rw [Kind.ofTag?_tag]
    simp only [Decoder.bind_eq_ok_iff, Decoder.take_eq_ok_iff]
    refine ⟨entry.payload.length, entry.payload ++ rest, ?_, entry.payload, rest, ⟨rfl, rfl⟩, ?_⟩
    · exact (payloadLength_eq_ok_iff fits).mpr (List.append_assoc ..)
    · rw [ofPayload_eq_ok_iff.mpr ⟨rfl, rfl⟩]
      rfl

end Entry

end ClassFormat

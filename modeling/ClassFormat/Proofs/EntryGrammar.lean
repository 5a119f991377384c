import ClassFormat.Proofs.Extension

/-!
# Input that is no constant

A constant starts with a known tag, and behind it stand as many bytes as its kind or its length
field says.  Every payload of that length belongs to a constant (`Entry.exists_of_payload`), so
reading a constant goes wrong in two ways only: the tag is unknown, or the input ends inside of a
constant (`Entry.decoder_eq_error_iff`).
-/

namespace ClassFormat

namespace Decoder

variable {α β : Type}

/-- The decoder takes a fixed number of bytes, whatever they are, and runs out on fewer. -/
structure Takes (length : Nat) (decoder : Decoder α) : Prop where
  short : ∀ ⦃input : Bytes⦄, input.length < length → decoder input = .error .unexpectedEnd []
  enough : ∀ ⦃input : Bytes⦄, length ≤ input.length →
    ∃ value, decoder input = .ok value (input.drop length)

theorem takes_pure (value : α) : Takes 0 (pure value) where
  short _ short := absurd short (Nat.not_lt_zero _)
  enough _ _ := ⟨value, rfl⟩

/-- Reading one part after the other takes the bytes of both. -/
theorem Takes.bind {first second : Nat} {decoder : Decoder α} {next : α → Decoder β}
    (front : decoder.Takes first) (back : ∀ value, (next value).Takes second) :
    (decoder >>= next).Takes (first + second) where
  short input short := by
    apply bind_eq_error_iff.mpr
    by_cases reached : first ≤ input.length
    · rcases front.enough reached with ⟨value, read⟩
      have behind : (input.drop first).length < second := by
        rw [List.length_drop]
        omega
      exact .inr ⟨value, input.drop first, read, (back value).short behind⟩
    · exact .inl (front.short (Nat.lt_of_not_le reached))
  enough input enough := by
    have behind : second ≤ (input.drop first).length := by
      rw [List.length_drop]
      omega
    rcases front.enough (Nat.le_trans (Nat.le_add_right first second) enough) with ⟨value, read⟩
    rcases (back value).enough behind with ⟨result, readBack⟩
    rw [List.drop_drop] at readBack
    exact ⟨result, bind_eq_ok_iff.mpr ⟨value, input.drop first, read, readBack⟩⟩

theorem byte_takes : byte.Takes 1 where
  short input short := by
    obtain rfl := List.length_eq_zero_iff.mp (Nat.lt_one_iff.mp short)
    rfl
  enough input enough := by
    match input, enough with
    | a :: input, _ => exact ⟨a, rfl⟩

theorem word16_takes : word16.Takes 2 where
  short input short := by
    match input, short with
    | [], _ => rfl
    | [_], _ => rfl
  enough input enough := by
    match input, enough with
    | a :: b :: input, _ => exact ⟨_, rfl⟩

theorem word32_takes : word32.Takes 4 :=
  word16_takes.bind fun _ => word16_takes.bind fun _ => takes_pure _

theorem word64_takes : word64.Takes 8 :=
  word32_takes.bind fun _ => word32_takes.bind fun _ => takes_pure _

theorem take_takes (length : Nat) : (take length).Takes length where
  short input short := by
    have cut : (input.take length).length ≠ length := by
      rw [List.length_take]
      omega
    simp only [take, List.splitAt_eq, if_neg cut]
    rfl
  enough input enough :=
    ⟨input.take length, take_eq_ok_iff.mpr
      ⟨List.length_take_of_le enough, (List.take_append_drop length input).symm⟩⟩

end Decoder

namespace Entry

/-! ## Every payload belongs to a constant -/

/-- The fields of a kind take the bytes that the kind fixes. -/
theorem fields_takes {kind : Kind} {length : Nat} (fixed : kind.payloadLength? = some length) :
    (fields kind).Takes length := by
  cases kind with
  | utf8 => cases fixed
  | integer | float =>
      cases fixed
      exact Decoder.word32_takes.bind fun _ => Decoder.takes_pure _
  | long | double =>
      cases fixed
      exact Decoder.word64_takes.bind fun _ => Decoder.takes_pure _
  | classRef | stringRef | methodType | moduleRef | packageRef =>
      cases fixed
      exact Decoder.word16_takes.bind fun _ => Decoder.takes_pure _
  | fieldRef | methodRef | interfaceMethodRef | nameAndType | dynamic | invokeDynamic =>
      cases fixed
      exact Decoder.word16_takes.bind fun _ => Decoder.word16_takes.bind fun _ =>
        Decoder.takes_pure _
  | methodHandle =>
      cases fixed
      exact Decoder.byte_takes.bind fun _ => Decoder.word16_takes.bind fun _ =>
        Decoder.takes_pure _

/-- Every payload of the length that its kind fixes belongs to a constant. -/
theorem exists_of_payload {kind : Kind} {payload : Bytes}
    (fixed : ∀ length, kind.payloadLength? = some length → payload.length = length) :
    ∃ entry : Entry, entry.kind = kind ∧ entry.payload = payload := by
  cases length_eq : kind.payloadLength? with
  | none =>
      obtain rfl := payloadLength?_eq_none_iff.mp length_eq
      exact ⟨.utf8 ⟨payload⟩, rfl, rfl⟩
  | some length =>
      have payload_length := fixed length length_eq
      rcases (fields_takes length_eq).enough (Nat.le_of_eq payload_length.symm) with ⟨entry, read⟩
      rcases fields_eq_ok_iff.mp read with ⟨kind_eq, payload_eq, _⟩
      rw [← payload_length, List.drop_length, List.append_nil] at payload_eq
      exact ⟨entry, kind_eq, payload_eq.symm⟩

/-! ## Input that ends inside of a constant -/

/-- The input is the beginning of what a constant writes, without its end. -/
def CutShort (input : Bytes) : Prop :=
  ∃ (entry : Entry) (more : Bytes), more ≠ [] ∧ entry.emission.Writes (input ++ more)

/-- What is left of input that is cut short is cut short as well. -/
theorem CutShort.left {front back : Bytes} (cut : CutShort (front ++ back)) : CutShort front := by
  rcases cut with ⟨entry, more, nonempty, wrote⟩
  rw [List.append_assoc] at wrote
  exact ⟨entry, back ++ more, List.append_ne_nil_of_right_ne_nil back nonempty, wrote⟩

theorem cutShort_of_payload {entry : Entry} (fits : entry.Fits) {front back : Bytes}
    (nonempty : back ≠ []) (payload_eq : entry.payload = front ++ back) :
    CutShort (entry.kind.tag :: (entry.lengthField ++ front)) := by
  refine ⟨entry, back, nonempty, writes_emission.mpr ⟨fits, ?_⟩⟩
  rw [bytes, payload_eq, List.cons_append, List.append_assoc]

/-- A constant of fixed length is cut short if its payload is. -/
theorem cutShort_of_fixed {kind : Kind} {length : Nat}
    (fixed : kind.payloadLength? = some length) {front : Bytes} (short : front.length < length) :
    CutShort (kind.tag :: front) := by
  have missing : List.replicate (length - front.length) (0 : UInt8) ≠ [] := by
    rw [Ne, List.replicate_eq_nil_iff]
    omega
  have padded : ∀ other, kind.payloadLength? = some other →
      (front ++ List.replicate (length - front.length) 0).length = other := by
    intro other same
    obtain rfl := Option.some.inj (fixed.symm.trans same)
    rw [List.length_append, List.length_replicate]
    omega
  rcases exists_of_payload padded with ⟨entry, rfl, payload_eq⟩
  have notUtf8 : entry.kind ≠ .utf8 := by
    intro isUtf8
    rw [payloadLength?_eq_none_iff.mpr isUtf8] at fixed
    cases fixed
  have cut := cutShort_of_payload (fun isUtf8 => absurd isUtf8 notUtf8) missing payload_eq
  rwa [lengthField_of_kind_ne_utf8 notUtf8] at cut

/-- A string is cut short if fewer bytes follow than its length field says. -/
theorem cutShort_of_utf8 {length : UInt16} (front : Bytes) (short : front.length < length.toNat) :
    CutShort (Kind.utf8.tag :: (Bytes.ofUInt16 length ++ front)) := by
  have missing : List.replicate (length.toNat - front.length) (0 : UInt8) ≠ [] := by
    rw [Ne, List.replicate_eq_nil_iff]
    omega
  have padded : (front ++ List.replicate (length.toNat - front.length) 0).length =
      length.toNat := by
    rw [List.length_append, List.length_replicate]
    omega
  have field_eq : (Entry.utf8 ⟨front ++ List.replicate (length.toNat - front.length) 0⟩).lengthField
      = Bytes.ofUInt16 length := by
    simp only [lengthField, kind, Kind.payloadLength?, payload, padded]
    exact congrArg Bytes.ofUInt16 UInt16.ofNat_toNat
  have fits : (Entry.utf8 ⟨front ++ List.replicate (length.toNat - front.length) 0⟩).Fits := by
    intro _
    rw [payload, padded]
    exact length.toNat_lt
  have cut := cutShort_of_payload fits missing rfl
  rwa [field_eq] at cut

/-! ## Both ways of going wrong -/

theorem decoder_of_unknown {tag : UInt8} (unknown : ∀ kind : Kind, kind.tag ≠ tag) (rest : Bytes) :
    decoder (tag :: rest) = .error (.unknownTag tag) rest := by
  have none : Kind.ofTag? tag = none := by
    rw [Option.eq_none_iff_forall_ne_some]
    intro kind known
    exact unknown kind (Kind.ofTag?_eq_some_iff.mp known).symm
  simp only [decoder, Decoder.bind_eq_error_iff]
  exact .inr ⟨tag, rest, rfl, by rw [none]; rfl⟩

/-- The length of a payload is fixed by its kind, or stands in front of a string. -/
theorem payloadLength_cases {kind : Kind} {body middle : Bytes} {length : Nat}
    (read : payloadLength kind body = .ok length middle) :
    kind.payloadLength? = some length ∧ body = middle ∨
      kind = .utf8 ∧
        ∃ word : UInt16, length = word.toNat ∧ body = Bytes.ofUInt16 word ++ middle := by
  unfold payloadLength at read
  cases fixed : kind.payloadLength? with
  | some actual =>
      rw [fixed] at read
      obtain ⟨rfl, rfl⟩ := Decoder.pure_eq_ok_iff.mp read
      exact .inl ⟨rfl, rfl⟩
  | none =>
      simp only [fixed, Decoder.bind_eq_ok_iff, Decoder.word16_eq_ok_iff, Decoder.pure_eq_ok_iff]
        at read
      rcases read with ⟨word, _, rfl, rfl, rfl⟩
      exact .inr ⟨payloadLength?_eq_none_iff.mp fixed, word, rfl, rfl⟩

/-- Only the length field of a string can be missing. -/
theorem cutShort_of_payloadLength {kind : Kind} {body rest : Bytes} {error : DecodeError}
    (failed : payloadLength kind body = .error error rest) :
    error = .unexpectedEnd ∧ rest = [] ∧ CutShort (kind.tag :: body) := by
  unfold payloadLength at failed
  cases fixed : kind.payloadLength? with
  | some length =>
      rw [fixed] at failed
      cases failed
  | none =>
      obtain rfl := payloadLength?_eq_none_iff.mp fixed
      rw [fixed] at failed
      rcases Decoder.bind_eq_error_iff.mp failed with noField | ⟨_, _, _, impossible⟩
      · match body, noField with
        | [], noField =>
            cases noField
            have cut : CutShort ([Kind.utf8.tag] ++ Bytes.ofUInt16 1) :=
              cutShort_of_utf8 [] (by decide)
            exact ⟨rfl, rfl, cut.left⟩
        | [upper], noField =>
            cases noField
            have positive : 0 < (Bytes.word16 upper 1).toNat := by
              rw [Bytes.toNat_word16]
              exact Nat.add_pos_right _ (by decide)
            have cut : CutShort ([Kind.utf8.tag, upper] ++ [1]) := by
              have whole := cutShort_of_utf8 [] positive
              rwa [Bytes.ofUInt16_word16] at whole
            exact ⟨rfl, rfl, cut.left⟩
      · cases impossible

theorem cutShort_of_take {kind : Kind} {body middle rest : Bytes} {length : Nat}
    {error : DecodeError} (read : payloadLength kind body = .ok length middle)
    (failed : Decoder.take length middle = .error error rest) :
    error = .unexpectedEnd ∧ rest = [] ∧ CutShort (kind.tag :: body) := by
  by_cases enough : length ≤ middle.length
  · rcases (Decoder.take_takes length).enough enough with ⟨_, taken⟩
    rw [taken] at failed
    cases failed
  · have short := Nat.lt_of_not_le enough
    rw [(Decoder.take_takes length).short short] at failed
    cases failed
    refine ⟨rfl, rfl, ?_⟩
    rcases payloadLength_cases read with ⟨fixed, rfl⟩ | ⟨rfl, word, rfl, rfl⟩
    · exact cutShort_of_fixed fixed short
    · exact cutShort_of_utf8 middle short

/-- A payload that is as long as it has to be gives a constant. -/
theorem ofPayload_eq_ok_of_take {kind : Kind} {body middle payload rest : Bytes} {length : Nat}
    (read : payloadLength kind body = .ok length middle)
    (taken : Decoder.take length middle = .ok payload rest) :
    ∃ entry, ofPayload kind payload = .ok entry := by
  have payload_length := (Decoder.take_eq_ok_iff.mp taken).1
  have fixed : ∀ other, kind.payloadLength? = some other → payload.length = other := by
    intro other same
    rcases payloadLength_cases read with ⟨fixed, _⟩ | ⟨rfl, _⟩
    · rw [payload_length]
      exact Option.some.inj (fixed.symm.trans same)
    · cases same
  rcases exists_of_payload fixed with ⟨entry, kind_eq, payload_eq⟩
  exact ⟨entry, ofPayload_eq_ok_iff.mpr ⟨kind_eq, payload_eq⟩⟩

/-- What stands behind a known tag can only be too short. -/
theorem cutShort_of_decoder {kind : Kind} {body rest : Bytes} {error : DecodeError}
    (failed : decoder (kind.tag :: body) = .error error rest) :
    error = .unexpectedEnd ∧ rest = [] ∧ CutShort (kind.tag :: body) := by
  simp only [decoder, Decoder.bind_eq_error_iff] at failed
  rcases failed with impossible | ⟨tag, _, read, failed⟩
  · cases impossible
  · cases read
    rw [Kind.ofTag?_tag] at failed
    simp only [Decoder.bind_eq_error_iff] at failed
    rcases failed with noLength | ⟨length, middle, read, noPayload | ⟨payload, _, taken, unmade⟩⟩
    · exact cutShort_of_payloadLength noLength
    · exact cutShort_of_take read noPayload
    · rcases ofPayload_eq_ok_of_take read taken with ⟨entry, made⟩
      rw [made] at unmade
      cases unmade

theorem cases_of_decoder_eq_error {input rest : Bytes} {error : DecodeError}
    (failed : decoder input = .error error rest) :
    (∃ tag, (∀ kind : Kind, kind.tag ≠ tag) ∧ input = tag :: rest ∧ error = .unknownTag tag) ∨
      CutShort input ∧ error = .unexpectedEnd ∧ rest = [] := by
  cases input with
  | nil =>
      cases failed
      have cut : CutShort ([] ++ Kind.utf8.tag :: (Bytes.ofUInt16 1 ++ [])) :=
        cutShort_of_utf8 [] (by decide)
      exact .inr ⟨cut.left, rfl, rfl⟩
  | cons tag body =>
      by_cases unknown : ∀ kind : Kind, kind.tag ≠ tag
      · rw [decoder_of_unknown unknown] at failed
        cases failed
        exact .inl ⟨tag, unknown, rfl, rfl⟩
      · simp only [ne_eq, not_forall, not_not] at unknown
        rcases unknown with ⟨kind, rfl⟩
        rcases cutShort_of_decoder failed with ⟨rfl, rfl, cut⟩
        exact .inr ⟨cut, rfl, rfl⟩

/-- Input that is cut short is used up. -/
theorem decoder_of_cutShort {input : Bytes} (cut : CutShort input) :
    decoder input = .error .unexpectedEnd [] := by
  rcases cut with ⟨entry, more, nonempty, wrote⟩
  have whole : decoder (input ++ more) = .ok entry [] :=
    decoder_reads.eq_ok_iff.mpr ⟨_, wrote, (List.append_nil _).symm⟩
  rcases decoder_stable.runs_out nonempty whole with ⟨rest, failed⟩
  rcases cases_of_decoder_eq_error failed with ⟨_, _, _, impossible⟩ | ⟨_, _, rfl⟩
  · cases impossible
  · exact failed

/-- Reading a constant goes wrong exactly on input that starts with an unknown tag, of which the
tag is read, and on input that is cut short, of which nothing is left. -/
theorem decoder_eq_error_iff {input rest : Bytes} {error : DecodeError} :
    decoder input = .error error rest ↔
      (∃ tag, (∀ kind : Kind, kind.tag ≠ tag) ∧ input = tag :: rest ∧ error = .unknownTag tag) ∨
        CutShort input ∧ error = .unexpectedEnd ∧ rest = [] := by
  constructor
  · exact cases_of_decoder_eq_error
  · rintro (⟨tag, unknown, rfl, rfl⟩ | ⟨cut, rfl, rfl⟩)
    · exact decoder_of_unknown unknown rest
    · exact decoder_of_cutShort cut

end Entry

end ClassFormat

import ClassFormat.Proofs.ClassFileCodec

/-!
# Input that goes on

A decoder sees its input from the front, so more input behind it matters only if the decoder has run
out.  `Decoder.Stable` says so for one decoder, together with the faults it can report besides
running out.  The property passes from the parts of a format to the whole.

For class files it follows that a fault is reported alike however the input goes on, and that an
input which is cut short is always recognised as such.
-/

namespace ClassFormat

namespace Decoder

variable {α β : Type} {faults : DecodeError → Prop}

/-- What the decoder reports stays the same when the input goes on, unless the input ran out.  All
that it reports besides running out are the given faults. -/
structure Stable (faults : DecodeError → Prop) (decoder : Decoder α) : Prop where
  ok : ∀ ⦃input rest : Bytes⦄ ⦃value : α⦄, decoder input = .ok value rest →
    ∀ more, decoder (input ++ more) = .ok value (rest ++ more)
  error : ∀ ⦃input rest : Bytes⦄ ⦃error : DecodeError⦄, decoder input = .error error rest →
    error = .unexpectedEnd ∨
      faults error ∧ ∀ more, decoder (input ++ more) = .error error (rest ++ more)

theorem stable_pure (value : α) : Stable faults (pure value) where
  ok input rest result read more := by
    obtain ⟨rfl, rfl⟩ := pure_eq_ok_iff.mp read
    rfl
  error input rest error failed := by cases failed

theorem stable_throw {error : DecodeError} (known : error = .unexpectedEnd ∨ faults error) :
    Stable faults (throw error : Decoder α) where
  ok input rest value read := absurd read throw_ne_ok
  error input rest reported failed := by
    cases failed
    exact known.imp_right fun fault => ⟨fault, fun _ => rfl⟩

theorem bind_eq_error_iff {decoder : Decoder α} {next : α → Decoder β} {input rest : Bytes}
    {error : DecodeError} :
    (decoder >>= next) input = .error error rest ↔
      decoder input = .error error rest ∨
        ∃ value middle, decoder input = .ok value middle ∧
          next value middle = .error error rest := by
  simp only [bind, EStateM.bind]
  cases decoder input with
  | ok value middle =>
      constructor
      · intro failed
        exact .inr ⟨value, middle, rfl, failed⟩
      · rintro (impossible | ⟨_, _, same, failed⟩)
        · cases impossible
        · cases same
          exact failed
  | error reported middle => simp

/-- Reading one part after the other is stable if both parts are. -/
theorem Stable.bind {decoder : Decoder α} {next : α → Decoder β} (first : decoder.Stable faults)
    (second : ∀ value, (next value).Stable faults) : (decoder >>= next).Stable faults where
  ok input rest value read more := by
    rcases bind_eq_ok_iff.mp read with ⟨part, middle, readPart, readRest⟩
    apply bind_eq_ok_iff.mpr
    exact ⟨part, middle ++ more, first.ok readPart more, (second part).ok readRest more⟩
  error input rest error failed := by
    rcases bind_eq_error_iff.mp failed with failedPart | ⟨part, middle, readPart, failedRest⟩
    · refine (first.error failedPart).imp_right fun ⟨fault, later⟩ => ⟨fault, fun more => ?_⟩
      exact bind_eq_error_iff.mpr (.inl (later more))
    · refine ((second part).error failedRest).imp_right
        fun ⟨fault, later⟩ => ⟨fault, fun more => ?_⟩
      apply bind_eq_error_iff.mpr
      exact .inr ⟨part, middle ++ more, first.ok readPart more, later more⟩

/-- Input that would be used up whole runs out if its end is missing. -/
theorem Stable.runs_out {decoder : Decoder α} (stable : decoder.Stable faults)
    {front back : Bytes} {value : α} (nonempty : back ≠ [])
    (whole : decoder (front ++ back) = .ok value []) :
    ∃ rest, decoder front = .error .unexpectedEnd rest := by
  cases cut : decoder front with
  | ok early rest =>
      -- Reading would stop before the part that is missing, and that part would be left over.
      have still := stable.ok cut back
      rw [whole] at still
      have left_eq := (EStateM.Result.ok.inj still).2
      exact absurd (List.append_eq_nil_iff.mp left_eq.symm).2 nonempty
  | error error rest =>
      rcases stable.error cut with rfl | ⟨_, still⟩
      · exact ⟨rest, rfl⟩
      · have impossible := still back
        rw [whole] at impossible
        cases impossible

theorem byte_stable : byte.Stable faults where
  ok input rest a read more := by
    rw [byte_eq_ok_iff.mp read]
    rfl
  error input rest error failed := by
    cases input with
    | nil =>
        cases failed
        exact .inl rfl
    | cons a input => cases failed

theorem word16_stable : word16.Stable faults where
  ok input rest n read more := by
    rw [word16_eq_ok_iff.mp read, List.append_assoc]
    exact word16_ofUInt16 n (rest ++ more)
  error input rest error failed := by
    match input, failed with
    | [], failed | [_], failed =>
        cases failed
        exact .inl rfl

theorem word32_stable : word32.Stable faults :=
  word16_stable.bind fun _ => word16_stable.bind fun _ => stable_pure _

theorem word64_stable : word64.Stable faults :=
  word32_stable.bind fun _ => word32_stable.bind fun _ => stable_pure _

theorem take_stable (length : Nat) : (take length).Stable faults where
  ok input rest front read more := by
    obtain ⟨rfl, rfl⟩ := take_eq_ok_iff.mp read
    rw [List.append_assoc]
    exact take_append front (rest ++ more)
  error input rest error failed := by
    simp only [take, List.splitAt_eq] at failed
    by_cases enough : (input.take length).length = length
    · rw [if_pos enough] at failed
      cases failed
    · rw [if_neg enough] at failed
      cases failed
      exact .inl rfl

/-- One turn of the loop is the item and then the loop with one turn less. -/
theorem repeatOnto_succ (item : Decoder α) (count : Nat) (before : List α) :
    repeatOnto item (count + 1) before =
      (item >>= fun value => repeatOnto item count (value :: before)) := by
  funext input
  simp only [repeatOnto, bind, EStateM.bind]
  cases item input <;> rfl

private theorem repeatOnto_stable {item : Decoder α} (stable : item.Stable faults) (count : Nat)
    (before : List α) : (repeatOnto item count before).Stable faults := by
  induction count generalizing before with
  | zero => exact stable_pure before.reverse
  | succ count ih =>
      rw [repeatOnto_succ]
      exact stable.bind fun value => ih (value :: before)

/-- A table is stable if its items are. -/
theorem Stable.table {item : Decoder α} (stable : item.Stable faults) :
    (Decoder.table item).Stable faults :=
  word16_stable.bind fun count => repeatOnto_stable stable count.toNat []

end Decoder

/-- The errors that tell what is wrong with the bytes seen so far. -/
def DecodeError.IsFault : DecodeError → Prop
  | .badMagic _ | .unknownTag _ | .malformed _ => True
  | .unexpectedEnd | .trailingBytes _ | .unreadable _ => False

namespace Entry

/-- The fields of every kind but the string, which has no end of its own, are stable. -/
theorem fields_stable {faults : DecodeError → Prop} {kind : Kind} (notUtf8 : kind ≠ .utf8) :
    (fields kind).Stable faults := by
  cases kind with
  | utf8 => exact absurd rfl notUtf8
  | integer | float =>
      exact Decoder.word32_stable.bind fun _ => Decoder.stable_pure _
  | long | double =>
      exact Decoder.word64_stable.bind fun _ => Decoder.stable_pure _
  | classRef | stringRef | methodType | moduleRef | packageRef =>
      exact Decoder.word16_stable.bind fun _ => Decoder.stable_pure _
  | fieldRef | methodRef | interfaceMethodRef | nameAndType | dynamic | invokeDynamic =>
      exact Decoder.word16_stable.bind fun _ => Decoder.word16_stable.bind fun _ =>
        Decoder.stable_pure _
  | methodHandle =>
      exact Decoder.byte_stable.bind fun _ => Decoder.word16_stable.bind fun _ =>
        Decoder.stable_pure _

theorem isFault_of_ofPayload_eq_error {kind : Kind} {payload : Bytes} {error : DecodeError}
    (failed : ofPayload kind payload = .error error) : error = .unexpectedEnd ∨ error.IsFault := by
  by_cases isUtf8 : kind = .utf8
  · subst isUtf8
    cases failed
  · unfold ofPayload at failed
    cases read : fields kind payload with
    | ok entry rest =>
        cases rest with
        | nil => simp [read] at failed
        | cons byte rest =>
            simp only [read, Except.error.injEq] at failed
            subst failed
            exact .inr trivial
    | error reported rest =>
        simp only [read, Except.error.injEq] at failed
        subst failed
        exact ((fields_stable isUtf8).error read).imp_right And.left

theorem decoder_stable : decoder.Stable DecodeError.IsFault := by
  refine Decoder.byte_stable.bind fun tag => ?_
  cases Kind.ofTag? tag with
  | none => exact Decoder.stable_throw (.inr trivial)
  | some kind =>
      have lengthStable : (payloadLength kind).Stable DecodeError.IsFault := by
        unfold payloadLength
        cases kind.payloadLength? with
        | some length => exact Decoder.stable_pure length
        | none => exact Decoder.word16_stable.bind fun _ => Decoder.stable_pure _
      refine lengthStable.bind fun length => (Decoder.take_stable length).bind fun payload => ?_
      cases made : ofPayload kind payload with
      | ok entry => exact Decoder.stable_pure entry
      | error error => exact Decoder.stable_throw (isFault_of_ofPayload_eq_error made)

end Entry

namespace ConstantPool

/-- Filling the slots is stable: every constant is, and whether it has room depends only on the
slots that are left. -/
theorem fill_stable (left : Nat) (pool : ConstantPool) :
    (fill left pool).Stable DecodeError.IsFault := by
  induction left using Nat.strongRecOn generalizing pool with
  | _ left ih =>
      cases left with
      | zero => exact Decoder.stable_pure pool
      | succ left =>
          have turn : fill (left + 1) pool = (Entry.decoder >>= fun entry =>
              if entry.width ≤ left + 1 then fill (left + 1 - entry.width) (pool.append entry)
              else throw (.malformed .wideOverflow)) := by
            funext input
            rw [fill_succ]
            simp only [bind, EStateM.bind]
            cases Entry.decoder input with
            | error error rest => rfl
            | ok entry rest => by_cases room : entry.width ≤ left + 1 <;> simp only [room] <;> rfl
          rw [turn]
          refine Entry.decoder_stable.bind fun entry => ?_
          by_cases room : entry.width ≤ left + 1
          · have positive := entry.width_eq_one_or_two
            rw [if_pos room]
            exact ih (left + 1 - entry.width) (by omega) (pool.append entry)
          · rw [if_neg room]
            exact Decoder.stable_throw (.inr trivial)

theorem decoder_stable (count : UInt16) : (decoder count).Stable DecodeError.IsFault := by
  unfold decoder
  by_cases zero : count = 0
  · rw [if_pos zero]
    exact Decoder.stable_throw (.inr trivial)
  · rw [if_neg zero]
    exact fill_stable (count.toNat - 1) empty

end ConstantPool

section Tables

variable {faults : DecodeError → Prop}

theorem Attribute.decoder_stable : Attribute.decoder.Stable faults :=
  Decoder.word16_stable.bind fun _ => Decoder.word32_stable.bind fun length =>
    (Decoder.take_stable length.toNat).bind fun _ => Decoder.stable_pure _

theorem Member.decoder_stable : Member.decoder.Stable faults :=
  Decoder.word16_stable.bind fun _ => Decoder.word16_stable.bind fun _ =>
    Decoder.word16_stable.bind fun _ => Attribute.decoder_stable.table.bind fun _ =>
      Decoder.stable_pure _

theorem ClassFile.Heading.decoder_stable : ClassFile.Heading.decoder.Stable faults :=
  Decoder.word16_stable.bind fun _ => Decoder.word16_stable.bind fun _ =>
    Decoder.word16_stable.bind fun _ => Decoder.word16_stable.table.bind fun _ =>
      Decoder.stable_pure _

end Tables

namespace ClassFile

theorem Prologue.decoder_stable : Prologue.decoder.Stable DecodeError.IsFault := by
  refine Decoder.word32_stable.bind fun number => ?_
  have behind : (do
      let minorVersion ← Decoder.word16
      let majorVersion ← Decoder.word16
      let poolCount ← Decoder.word16
      return { minorVersion, majorVersion, poolCount } : Decoder Prologue).Stable
        DecodeError.IsFault :=
    Decoder.word16_stable.bind fun _ => Decoder.word16_stable.bind fun _ =>
      Decoder.word16_stable.bind fun _ => Decoder.stable_pure _
  by_cases same : number = magic
  · simp only [same, ne_eq, not_true_eq_false, if_false]
    exact behind
  · simp only [same, ne_eq, not_false_eq_true, if_true]
    exact (Decoder.stable_throw (.inr trivial)).bind fun _ => behind

/-- Reading a class file is stable. -/
theorem decoder_stable : decoder.Stable DecodeError.IsFault :=
  Prologue.decoder_stable.bind fun prologue =>
    (ConstantPool.decoder_stable prologue.poolCount).bind fun _ =>
      Heading.decoder_stable.bind fun _ => Member.decoder_stable.table.bind fun _ =>
        Member.decoder_stable.table.bind fun _ => Attribute.decoder_stable.table.bind fun _ =>
          Decoder.stable_pure _

end ClassFile

/-! ## Opening a class file -/

namespace Document

/-- Bytes are refused for what is wrong with the class file in front, or for what follows it. -/
theorem parse_reject_eq_error_iff {fresh : Identity} {bytes : Bytes} {error : DecodeError} :
    (parse fresh .reject bytes).result = .error error ↔
      (∃ rest, ClassFile.decoder bytes = .error error rest) ∨
        ∃ file rest, ClassFile.decoder bytes = .ok file rest ∧ rest ≠ [] ∧
          error = .trailingBytes rest.length := by
  cases decoded : ClassFile.decoder bytes with
  | error reported rest => simp [parse, decoded]
  | ok file rest =>
      cases rest with
      | nil => simp [parse, decoded]
      | cons byte rest =>
          rw [parse_reject_of_rest decoded (List.cons_ne_nil byte rest)]
          simp [eq_comm]

variable {fresh later : Identity} {bytes more : Bytes}

/-- A fault of the bytes is reported however they go on. -/
theorem parse_append_of_isFault {error : DecodeError} (fault : error.IsFault)
    (refused : (parse fresh .reject bytes).result = .error error) :
    (parse later .reject (bytes ++ more)).result = .error error := by
  rcases parse_reject_eq_error_iff.mp refused with ⟨rest, failed⟩ | ⟨_, _, _, _, rfl⟩
  · rcases ClassFile.decoder_stable.error failed with rfl | ⟨_, still⟩
    · cases fault
    · exact parse_reject_eq_error_iff.mpr (.inl ⟨rest ++ more, still more⟩)
  · cases fault

/-- A class file is still there with more bytes behind it. -/
theorem decoder_append_of_parse {document : Document}
    (opened : (parse fresh .reject bytes).result = .ok document) (more : Bytes) :
    ClassFile.decoder (bytes ++ more) = .ok document.file more := by
  rcases parse_eq_ok_iff.mp opened with ⟨_, rest, decoded, none_left⟩
  obtain rfl := none_left rfl
  exact ClassFile.decoder_stable.ok decoded more

theorem parse_append_of_trailingBytes {count : Nat}
    (refused : (parse fresh .reject bytes).result = .error (.trailingBytes count)) :
    (parse later .reject (bytes ++ more)).result =
      .error (.trailingBytes (count + more.length)) := by
  rcases parse_reject_eq_error_iff.mp refused with
    ⟨rest, failed⟩ | ⟨file, rest, decoded, left, same⟩
  · rcases ClassFile.decoder_stable.error failed with impossible | ⟨fault, _⟩
    · cases impossible
    · cases fault
  · cases same
    have still := ClassFile.decoder_stable.ok decoded more
    rw [parse_reject_of_rest still (List.append_ne_nil_of_left_ne_nil left more),
      List.length_append]

/-- A class file that is cut short is refused for its end. -/
theorem unexpectedEnd_of_parse_append {document : Document} (nonempty : more ≠ [])
    (opened : (parse later .reject (bytes ++ more)).result = .ok document) :
    (parse fresh .reject bytes).result = .error .unexpectedEnd := by
  have decoded := decoder_append_of_parse opened []
  rw [List.append_nil] at decoded
  rcases ClassFile.decoder_stable.runs_out nonempty decoded with ⟨rest, cut⟩
  exact parse_reject_eq_error_iff.mpr (.inl ⟨rest, cut⟩)

/-- A fault of the bytes is reported alike however they go on; a class file stays the same class
file with more bytes behind it; and bytes that are refused for what follows are refused for more of
it.  So what is left of a class file when it is cut short is refused for nothing but its end. -/
theorem parse_append (fresh later : Identity) (bytes more : Bytes) :
    (∀ error : DecodeError, error.IsFault → (parse fresh .reject bytes).result = .error error →
        (parse later .reject (bytes ++ more)).result = .error error) ∧
      (∀ document, (parse fresh .reject bytes).result = .ok document → more ≠ [] →
        (parse later .reject (bytes ++ more)).result = .error (.trailingBytes more.length) ∧
          (parse later .ignore (bytes ++ more)).result = .ok ⟨later, document.file⟩) ∧
      (∀ count, (parse fresh .reject bytes).result = .error (.trailingBytes count) →
        (parse later .reject (bytes ++ more)).result =
          .error (.trailingBytes (count + more.length))) ∧
      ∀ document, (parse later .reject (bytes ++ more)).result = .ok document → more ≠ [] →
        (parse fresh .reject bytes).result = .error .unexpectedEnd := by
  refine ⟨fun _ fault => parse_append_of_isFault fault, ?_,
    fun _ => parse_append_of_trailingBytes,
    fun _ opened nonempty => unexpectedEnd_of_parse_append nonempty opened⟩
  intro document opened nonempty
  have still := decoder_append_of_parse opened more
  exact ⟨parse_reject_of_rest still nonempty, parse_eq_ok_iff.mpr ⟨rfl, more, still, nofun⟩⟩

/-- A tag that no constant has, a class file with two bytes behind it, and a class file without its
last byte. -/
theorem parse_append_sample :
    ((parse ⟨0⟩ .reject (sampleBytes.take 10 ++ [99])).result = .error (.unknownTag 99) ∧
        (parse ⟨1⟩ .reject (sampleBytes.take 10 ++ [99] ++ [1, 2])).result =
          .error (.unknownTag 99)) ∧
      ((parse ⟨0⟩ .reject sampleBytes).result = .ok ⟨⟨0⟩, sampleFile⟩ ∧
        (parse ⟨1⟩ .reject (sampleBytes ++ [1, 2])).result = .error (.trailingBytes 2)) ∧
      (parse ⟨1⟩ .reject (sampleBytes ++ [1, 2] ++ [3])).result = .error (.trailingBytes 3) ∧
      (parse ⟨0⟩ .reject sampleBytes.dropLast).result = .error .unexpectedEnd :=
  ⟨⟨rfl, (parse_append ⟨0⟩ ⟨1⟩ _ [1, 2]).1 _ trivial rfl⟩,
    ⟨rfl, ((parse_append ⟨0⟩ ⟨1⟩ sampleBytes [1, 2]).2.1 _ rfl (by decide)).1⟩,
    (parse_append ⟨0⟩ ⟨1⟩ (sampleBytes ++ [1, 2]) [3]).2.2.1 2 rfl,
    (parse_append ⟨0⟩ ⟨1⟩ sampleBytes.dropLast [0]).2.2.2 ⟨⟨1⟩, sampleFile⟩ rfl (by decide)⟩

end Document

end ClassFormat

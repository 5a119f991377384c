import ClassFormat.Proofs.EntryGrammar

/-!
# Input that is cut short can be completed

Behind its constant pool a class file consists of words, of tables that say how many items they
have, and of payloads that say how long they are.  Nothing that stands there can be wrong.  Reading
fails only if the input ends, and then there is a number of zero bytes that completes it: they close
the word that was cut, and every item that is still owed can be made of zero bytes.

`Decoder.Completable` says so for one decoder.  Like stability it passes from the parts of a format
to the whole, and a table has it because it owes finitely many items.
-/

namespace ClassFormat

namespace Decoder

variable {α β : Type}

/-- The decoder fails only on input that runs out, and zero bytes can be put behind such input so
that it is read and nothing is left. -/
structure Completable (decoder : Decoder α) : Prop extends Stable (fun _ => False) decoder where
  suffix : ∀ ⦃input rest : Bytes⦄ ⦃value : α⦄, decoder input = .ok value rest → rest <:+ input
  completed : ∀ ⦃input rest : Bytes⦄ ⦃error : DecodeError⦄, decoder input = .error error rest →
    ∃ missing value, decoder (input ++ List.replicate missing 0) = .ok value []

theorem Completable.eq_unexpectedEnd {decoder : Decoder α} (completable : decoder.Completable)
    {input rest : Bytes} {error : DecodeError} (failed : decoder input = .error error rest) :
    error = .unexpectedEnd :=
  (completable.error failed).resolve_right fun fault => fault.1

theorem completable_pure (value : α) : Completable (pure value) where
  toStable := stable_pure value
  suffix input rest result read := by
    obtain ⟨_, rfl⟩ := pure_eq_ok_iff.mp read
    exact List.suffix_rfl
  completed input rest error failed := by cases failed

/-- A decoder that takes a fixed number of bytes lacks as many as the input is too short. -/
theorem Takes.completable {length : Nat} {decoder : Decoder α} (takes : decoder.Takes length)
    (stable : decoder.Stable fun _ => False) : decoder.Completable where
  toStable := stable
  suffix input rest value read := by
    by_cases enough : length ≤ input.length
    · rcases takes.enough enough with ⟨_, taken⟩
      rw [taken] at read
      cases read
      exact List.drop_suffix length input
    · rw [takes.short (Nat.lt_of_not_le enough)] at read
      cases read
  completed input rest error failed := by
    have short : input.length < length := by
      by_contra enough
      rcases takes.enough (Nat.le_of_not_lt enough) with ⟨_, taken⟩
      rw [taken] at failed
      cases failed
    have filled : (input ++ List.replicate (length - input.length) 0).length = length := by
      rw [List.length_append, List.length_replicate]
      omega
    rcases takes.enough (Nat.le_of_eq filled.symm) with ⟨value, read⟩
    rw [List.drop_eq_nil_of_le (Nat.le_of_eq filled)] at read
    exact ⟨length - input.length, value, read⟩

/-- Something can be read from zero bytes alone. -/
theorem Completable.exists_zeros {decoder : Decoder α} (completable : decoder.Completable) :
    ∃ zeros value, decoder (List.replicate zeros 0) = .ok value [] := by
  cases read : decoder [] with
  | ok value rest =>
      obtain rfl := List.suffix_nil.mp (completable.suffix read)
      exact ⟨0, value, read⟩
  | error error rest => exact completable.completed read

/-- Input for one part after the other can be completed if the input for both parts can. -/
theorem Completable.bind {decoder : Decoder α} {next : α → Decoder β}
    (front : decoder.Completable) (back : ∀ value, (next value).Completable) :
    (decoder >>= next).Completable where
  toStable := front.toStable.bind fun value => (back value).toStable
  suffix input rest value read := by
    rcases bind_eq_ok_iff.mp read with ⟨part, middle, readPart, readRest⟩
    exact ((back part).suffix readRest).trans (front.suffix readPart)
  completed input rest error failed := by
    rcases bind_eq_error_iff.mp failed with failedPart | ⟨part, middle, readPart, failedRest⟩
    · -- The first part is completed, and the second is made of zero bytes alone.
      rcases front.completed failedPart with ⟨missing, part, readPart⟩
      rcases (back part).exists_zeros with ⟨zeros, value, readRest⟩
      have readFront := front.ok readPart (List.replicate zeros 0)
      rw [List.append_assoc, List.replicate_append_replicate] at readFront
      exact ⟨missing + zeros, value, bind_eq_ok_iff.mpr ⟨part, _, readFront, readRest⟩⟩
    · rcases (back part).completed failedRest with ⟨missing, value, readRest⟩
      have readFront := front.ok readPart (List.replicate missing 0)
      exact ⟨missing, value, bind_eq_ok_iff.mpr ⟨part, _, readFront, readRest⟩⟩

theorem word16_completable : word16.Completable :=
  word16_takes.completable word16_stable

theorem word32_completable : word32.Completable :=
  word32_takes.completable word32_stable

theorem take_completable (length : Nat) : (take length).Completable :=
  (take_takes length).completable (take_stable length)

private theorem repeatOnto_completable {item : Decoder α} (completable : item.Completable)
    (count : Nat) (before : List α) : (repeatOnto item count before).Completable := by
  induction count generalizing before with
  | zero => exact completable_pure before.reverse
  | succ count ih =>
      rw [repeatOnto_succ]
      exact completable.bind fun value => ih (value :: before)

/-- A table can be completed if its items can, whatever count it declares. -/
theorem Completable.table {item : Decoder α} (completable : item.Completable) :
    (Decoder.table item).Completable :=
  word16_completable.bind fun count => repeatOnto_completable completable count.toNat []

theorem bind_of_eq_ok {decoder : Decoder α} {next : α → Decoder β} {input rest : Bytes} {value : α}
    (read : decoder input = .ok value rest) : (decoder >>= next) input = next value rest := by
  simp only [bind, EStateM.bind, read]

end Decoder

theorem Attribute.decoder_completable : Attribute.decoder.Completable :=
  Decoder.word16_completable.bind fun _ => Decoder.word32_completable.bind fun length =>
    (Decoder.take_completable length.toNat).bind fun _ => Decoder.completable_pure _

theorem Member.decoder_completable : Member.decoder.Completable :=
  Decoder.word16_completable.bind fun _ => Decoder.word16_completable.bind fun _ =>
    Decoder.word16_completable.bind fun _ => Attribute.decoder_completable.table.bind fun _ =>
      Decoder.completable_pure _

namespace ClassFile

theorem Heading.decoder_completable : Heading.decoder.Completable :=
  Decoder.word16_completable.bind fun _ => Decoder.word16_completable.bind fun _ =>
    Decoder.word16_completable.bind fun _ => Decoder.word16_completable.table.bind fun _ =>
      Decoder.completable_pure _

/-! ## Behind the constant pool -/

/-- The bytes start with the number of class files, a version, and all that a constant pool
writes. -/
def StartsWithPool (bytes : Bytes) : Prop :=
  ∃ (minorVersion majorVersion : UInt16) (pool : ConstantPool) (written rest : Bytes),
    pool.Layout ∧ pool.emission.Writes written ∧
      bytes = Bytes.ofUInt32 magic ++ (Bytes.ofUInt16 minorVersion ++
        (Bytes.ofUInt16 majorVersion ++ (written ++ rest)))

/-- Read what follows the constant pool. -/
def behindPool (prologue : Prologue) (pool : ConstantPool) : Decoder ClassFile := do
  let heading ← Heading.decoder
  let fields ← Decoder.table Member.decoder
  let methods ← Decoder.table Member.decoder
  let attributes ← Decoder.table Attribute.decoder
  return {
    minorVersion := prologue.minorVersion
    majorVersion := prologue.majorVersion
    pool
    accessFlags := heading.accessFlags
    thisClass := heading.thisClass
    superClass := heading.superClass
    interfaces := heading.interfaces
    fields
    methods
    attributes }

theorem decoder_eq_behindPool :
    decoder = (do
      let prologue ← Prologue.decoder
      let pool ← ConstantPool.decoder prologue.poolCount
      behindPool prologue pool) :=
  rfl

theorem behindPool_completable (prologue : Prologue) (pool : ConstantPool) :
    (behindPool prologue pool).Completable :=
  Heading.decoder_completable.bind fun _ => Member.decoder_completable.table.bind fun _ =>
    Member.decoder_completable.table.bind fun _ => Attribute.decoder_completable.table.bind fun _ =>
      Decoder.completable_pure _

/-- Behind a complete constant pool reading goes on with the rest, also if the bytes go on. -/
theorem StartsWithPool.exists_behindPool {bytes : Bytes} (starts : StartsWithPool bytes) :
    ∃ prologue pool rest, ∀ more,
      decoder (bytes ++ more) = behindPool prologue pool (rest ++ more) := by
  rcases starts with ⟨minorVersion, majorVersion, pool, _, rest, layout, wrote, bytes_eq⟩
  rw [ConstantPool.emission_eq] at wrote
  rcases Emission.writes_word16_append.mp wrote with ⟨constants, wroteConstants, rfl⟩
  refine ⟨⟨minorVersion, majorVersion, pool.count⟩, pool, rest, fun more => ?_⟩
  have readPrologue : Prologue.decoder (bytes ++ more) =
      .ok ⟨minorVersion, majorVersion, pool.count⟩ (constants ++ (rest ++ more)) := by
    rw [Prologue.decoder_eq_ok_iff, bytes_eq]
    simp only [List.append_assoc]
  have readPool : ConstantPool.decoder pool.count (constants ++ (rest ++ more)) =
      .ok pool (rest ++ more) :=
    ConstantPool.decoder_eq_ok_iff.mpr ⟨layout, rfl, constants, wroteConstants, rfl⟩
  rw [decoder_eq_behindPool, Decoder.bind_of_eq_ok readPrologue]
  exact Decoder.bind_of_eq_ok readPool

/-- Bytes that start with a constant pool and are no class file lack a number of zero bytes. -/
theorem StartsWithPool.completed {bytes rest : Bytes} {error : DecodeError}
    (starts : StartsWithPool bytes) (failed : decoder bytes = .error error rest) :
    error = .unexpectedEnd ∧
      ∃ missing file, decoder (bytes ++ List.replicate missing 0) = .ok file [] := by
  rcases starts.exists_behindPool with ⟨prologue, pool, behind, decoder_eq⟩
  have completable := behindPool_completable prologue pool
  have failedBehind : behindPool prologue pool behind = .error error rest := by
    have same := decoder_eq []
    rw [List.append_nil, List.append_nil] at same
    rw [← same, failed]
  rcases completable.completed failedBehind with ⟨missing, file, read⟩
  exact ⟨completable.eq_unexpectedEnd failedBehind, missing, file, by rw [decoder_eq, read]⟩

end ClassFile

/-! ## Opening what was completed -/

namespace Document

variable {fresh later : Identity} {bytes : Bytes}

/-- Bytes with a complete constant pool are a class file, perhaps with more behind it, or end too
early. -/
theorem parse_cases_of_startsWithPool (starts : ClassFile.StartsWithPool bytes) :
    (∃ document, (parse fresh .reject bytes).result = .ok document) ∨
      (parse fresh .reject bytes).result = .error .unexpectedEnd ∨
        ∃ count, (parse fresh .reject bytes).result = .error (.trailingBytes count) := by
  cases opened : (parse fresh .reject bytes).result with
  | ok document => exact .inl ⟨document, rfl⟩
  | error error =>
      rcases parse_reject_eq_error_iff.mp opened with ⟨rest, failed⟩ | ⟨_, rest, _, _, rfl⟩
      · rw [(starts.completed failed).1]
        exact .inr (.inl rfl)
      · exact .inr (.inr ⟨rest.length, rfl⟩)

theorem exists_parse_zeros (starts : ClassFile.StartsWithPool bytes)
    (refused : (parse fresh .reject bytes).result = .error .unexpectedEnd) :
    ∃ missing document, 1 ≤ missing ∧
      (parse later .reject (bytes ++ List.replicate missing 0)).result = .ok document := by
  rcases parse_reject_eq_error_iff.mp refused with ⟨rest, failed⟩ | ⟨_, _, _, _, impossible⟩
  · rcases (starts.completed failed).2 with ⟨missing, file, decoded⟩
    have positive : missing ≠ 0 := by
      rintro rfl
      rw [List.replicate_zero, List.append_nil, failed] at decoded
      cases decoded
    exact ⟨missing, ⟨later, file⟩, Nat.one_le_iff_ne_zero.mpr positive,
      parse_eq_ok_iff.mpr ⟨rfl, [], decoded, fun _ => rfl⟩⟩
  · cases impossible

variable {missing zeros : Nat} {document : Document}

theorem parse_zeros_of_lt (fewer : zeros < missing)
    (opened : (parse later .reject (bytes ++ List.replicate missing 0)).result = .ok document) :
    (parse fresh .reject (bytes ++ List.replicate zeros 0)).result = .error .unexpectedEnd := by
  have lacking : List.replicate (missing - zeros) (0 : UInt8) ≠ [] := by
    rw [Ne, List.replicate_eq_nil_iff]
    omega
  have split : missing = zeros + (missing - zeros) := by omega
  rw [split, ← List.replicate_append_replicate, ← List.append_assoc] at opened
  exact unexpectedEnd_of_parse_append lacking opened

theorem parse_zeros_of_gt (more : missing < zeros)
    (opened : (parse later .reject (bytes ++ List.replicate missing 0)).result = .ok document) :
    (parse fresh .reject (bytes ++ List.replicate zeros 0)).result =
      .error (.trailingBytes (zeros - missing)) := by
  have left : List.replicate (zeros - missing) (0 : UInt8) ≠ [] := by
    rw [Ne, List.replicate_eq_nil_iff]
    omega
  have split : zeros = missing + (zeros - missing) := by omega
  have decoded := decoder_append_of_parse opened (List.replicate (zeros - missing) 0)
  rw [List.append_assoc, List.replicate_append_replicate, ← split] at decoded
  rw [parse_reject_of_rest decoded left, List.length_replicate]

/-- Bytes that start with a complete constant pool are a class file, have bytes behind it, or end
too early, and are refused for nothing else.  If they end too early, one number of zero bytes makes
them a class file; with fewer they still end too early, and with more there are bytes behind it. -/
theorem parse_completed (fresh later : Identity) (bytes : Bytes)
    (starts : ClassFile.StartsWithPool bytes) :
    ((∃ document, (parse fresh .reject bytes).result = .ok document) ∨
        (parse fresh .reject bytes).result = .error .unexpectedEnd ∨
          ∃ count, (parse fresh .reject bytes).result = .error (.trailingBytes count)) ∧
      ((parse fresh .reject bytes).result = .error .unexpectedEnd →
        (∃! missing, 1 ≤ missing ∧ ∃ document,
            (parse later .reject (bytes ++ List.replicate missing 0)).result = .ok document) ∧
          ∀ missing document,
            (parse later .reject (bytes ++ List.replicate missing 0)).result = .ok document →
              (∀ zeros < missing, (parse later .reject (bytes ++ List.replicate zeros 0)).result =
                .error .unexpectedEnd) ∧
              ∀ zeros > missing, (parse later .reject (bytes ++ List.replicate zeros 0)).result =
                .error (.trailingBytes (zeros - missing))) := by
  refine ⟨parse_cases_of_startsWithPool starts, fun refused => ⟨?_, ?_⟩⟩
  · rcases exists_parse_zeros starts refused with ⟨missing, document, positive, opened⟩
    refine ⟨missing, ⟨positive, document, opened⟩, ?_⟩
    rintro other ⟨_, _, openedOther⟩
    rcases Nat.lt_trichotomy other missing with fewer | same | more
    · rw [parse_zeros_of_lt fewer opened] at openedOther
      cases openedOther
    · exact same
    · rw [parse_zeros_of_gt more opened] at openedOther
      cases openedOther
  · intro missing document opened
    exact ⟨fun zeros fewer => parse_zeros_of_lt fewer opened,
      fun zeros more => parse_zeros_of_gt more opened⟩

/-- A class file that is cut inside the first of two attributes of its field.  The zero bytes end
that attribute, make up the other one, and say that there are no methods and no attributes. -/
theorem parse_completed_sample :
    let bytes : Bytes := sampleBytes.take 44 ++ [0, 2, 0]
    ClassFile.StartsWithPool bytes ∧
      (parse ⟨0⟩ .reject bytes).result = .error .unexpectedEnd ∧
      (∃! missing, 1 ≤ missing ∧ ∃ document,
        (parse ⟨1⟩ .reject (bytes ++ List.replicate missing 0)).result = .ok document) ∧
      (parse ⟨1⟩ .reject (bytes ++ List.replicate 14 0)).result = .error .unexpectedEnd ∧
      (parse ⟨1⟩ .reject (bytes ++ List.replicate 18 0)).result = .error (.trailingBytes 3) := by
  intro bytes
  have starts : ClassFile.StartsWithPool bytes :=
    ⟨0, 65, .ofConstants [.long 7, .utf8 ⟨[0x41]⟩, .classRef 3], _,
      bytes.drop 26, ConstantPool.layout_ofConstants (by decide), ⟨by decide, rfl⟩, rfl⟩
  have refused : (parse ⟨0⟩ .reject bytes).result = .error .unexpectedEnd := rfl
  have completed := (parse_completed ⟨0⟩ ⟨1⟩ bytes starts).2 refused
  have around := completed.2 15 _ rfl
  exact ⟨starts, refused, completed.1, around.1 14 (by decide), around.2 18 (by decide)⟩

end Document

end ClassFormat

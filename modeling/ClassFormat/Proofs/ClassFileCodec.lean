import ClassFormat.Document.Basic
import ClassFormat.Proofs.PoolCodec

/-!
# Class files are read as they are written

Attributes, members and class files inherit from their parts that they are read exactly as they are
written.  For a class file this needs the layout of its constant pool, which the writer takes for
granted and the reader establishes (`ClassFile.decoder_eq_ok_iff`).

Opening a class file and writing it again gives the bytes it was opened from, without those that
were ignored behind it.
-/

namespace ClassFormat

namespace Attribute

theorem writes_emission {item : Attribute} {bytes : Bytes} :
    item.emission.Writes bytes ↔
      item.payload.length < 0x100000000 ∧
        bytes = Bytes.ofUInt16 item.nameIndex ++
          (Bytes.ofUInt32 item.payload.length.toUInt32 ++ item.payload) := by
  rw [emission, List.append_assoc, Emission.writes_word16_append]
  simp only [Emission.writes_append, Emission.writes_length32, Emission.writes_cons_bytes,
    Emission.writes_nil]
  constructor
  · rintro ⟨_, ⟨_, _, ⟨small, rfl⟩, ⟨_, rfl, rfl⟩, rfl⟩, rfl⟩
    rw [List.append_nil]
    exact ⟨small, rfl⟩
  · rintro ⟨small, rfl⟩
    exact ⟨_, ⟨_, _, ⟨small, rfl⟩, ⟨[], rfl, rfl⟩, rfl⟩, by rw [List.append_nil]⟩

/-- An attribute is read exactly as it is written. -/
theorem decoder_reads : decoder.Reads emission := by
  intro input rest item
  simp only [decoder, Decoder.bind_eq_ok_iff, Decoder.word16_eq_ok_iff, Decoder.word32_eq_ok_iff,
    Decoder.take_eq_ok_iff, Decoder.pure_eq_ok_iff, writes_emission]
  constructor
  · rintro ⟨nameIndex, _, rfl, length, _, rfl, payload, _, ⟨length_eq, rfl⟩, rfl, rfl⟩
    have word_eq : payload.length.toUInt32 = length := by
      rw [length_eq]
      exact UInt32.ofNat_toNat
    refine ⟨_, ⟨?_, rfl⟩, ?_⟩
    · rw [length_eq]
      exact length.toNat_lt
    · simp only [word_eq, List.append_assoc]
  · rintro ⟨_, ⟨small, rfl⟩, rfl⟩
    have length_eq : item.payload.length = item.payload.length.toUInt32.toNat :=
      (UInt32.toNat_ofNat_of_lt' small).symm
    exact ⟨item.nameIndex, _, List.append_assoc .., item.payload.length.toUInt32, _,
      List.append_assoc .., item.payload, rest, ⟨length_eq, rfl⟩, rfl, rfl⟩

end Attribute

namespace Member

theorem writes_emission {member : Member} {bytes : Bytes} :
    member.emission.Writes bytes ↔
      ∃ attributes,
        Emission.Writes (Emission.table Attribute.emission member.attributes) attributes ∧
        bytes = Bytes.ofUInt16 member.accessFlags ++ (Bytes.ofUInt16 member.nameIndex ++
          (Bytes.ofUInt16 member.descriptorIndex ++ attributes)) := by
  simp only [emission, List.append_assoc, Emission.writes_word16_append]
  constructor
  · rintro ⟨_, ⟨_, ⟨attributes, wrote, rfl⟩, rfl⟩, rfl⟩
    exact ⟨attributes, wrote, rfl⟩
  · rintro ⟨attributes, wrote, rfl⟩
    exact ⟨_, ⟨_, ⟨attributes, wrote, rfl⟩, rfl⟩, rfl⟩

/-- A member is read exactly as it is written. -/
theorem decoder_reads : decoder.Reads emission := by
  intro input rest member
  simp only [decoder, Decoder.bind_eq_ok_iff, Decoder.word16_eq_ok_iff,
    Attribute.decoder_reads.table.eq_ok_iff, Decoder.pure_eq_ok_iff, writes_emission]
  constructor
  · rintro ⟨flags, _, rfl, name, _, rfl, descriptor, _, rfl, attributes, _, ⟨bytes, wrote, rfl⟩,
      rfl, rfl⟩
    exact ⟨_, ⟨bytes, wrote, rfl⟩, by simp only [List.append_assoc]⟩
  · rintro ⟨_, ⟨bytes, wrote, rfl⟩, rfl⟩
    exact ⟨member.accessFlags, _, List.append_assoc .., member.nameIndex, _,
      List.append_assoc .., member.descriptorIndex, _, List.append_assoc .., member.attributes,
      rest, ⟨bytes, wrote, rfl⟩, rfl, rfl⟩

end Member

namespace ClassFile

theorem Prologue.decoder_eq_ok_iff {input rest : Bytes} {prologue : Prologue} :
    Prologue.decoder input = .ok prologue rest ↔
      input = Bytes.ofUInt32 magic ++ (Bytes.ofUInt16 prologue.minorVersion ++
        (Bytes.ofUInt16 prologue.majorVersion ++
          (Bytes.ofUInt16 prologue.poolCount ++ rest))) := by
  simp only [Prologue.decoder, Decoder.bind_eq_ok_iff, Decoder.word32_eq_ok_iff]
  constructor
  · rintro ⟨number, _, rfl, decoded⟩
    split at decoded
    · obtain ⟨_, _, thrown, _⟩ := Decoder.bind_eq_ok_iff.mp decoded
      exact absurd thrown Decoder.throw_ne_ok
    · rename_i same
      obtain rfl : number = magic := Decidable.not_not.mp same
      simp only [Decoder.bind_eq_ok_iff, Decoder.word16_eq_ok_iff, Decoder.pure_eq_ok_iff]
        at decoded
      rcases decoded with ⟨minor, _, rfl, major, _, rfl, count, _, rfl, rfl, rfl⟩
      rfl
  · rintro rfl
    refine ⟨magic, _, rfl, ?_⟩
    simp only [ne_eq, not_true_eq_false, if_false, Decoder.bind_eq_ok_iff,
      Decoder.word16_eq_ok_iff, Decoder.pure_eq_ok_iff]
    exact ⟨_, _, rfl, _, _, rfl, _, _, rfl, rfl, rfl⟩

theorem Heading.decoder_eq_ok_iff {input rest : Bytes} {heading : Heading} :
    Heading.decoder input = .ok heading rest ↔
      ∃ interfaces, Emission.Writes (Emission.table Emission.word16 heading.interfaces) interfaces ∧
        input = Bytes.ofUInt16 heading.accessFlags ++ (Bytes.ofUInt16 heading.thisClass ++
          (Bytes.ofUInt16 heading.superClass ++ (interfaces ++ rest))) := by
  simp only [Heading.decoder, Decoder.bind_eq_ok_iff, Decoder.word16_eq_ok_iff,
    Decoder.word16_reads.table.eq_ok_iff, Decoder.pure_eq_ok_iff]
  constructor
  · rintro ⟨flags, _, rfl, this, _, rfl, super, _, rfl, interfaces, _, ⟨bytes, wrote, rfl⟩,
      rfl, rfl⟩
    exact ⟨bytes, wrote, rfl⟩
  · rintro ⟨bytes, wrote, rfl⟩
    exact ⟨_, _, rfl, _, _, rfl, _, _, rfl, _, _, ⟨bytes, wrote, rfl⟩, rfl, rfl⟩

/-- The parts that a class file writes, in order. -/
theorem writes_emission {file : ClassFile} {bytes : Bytes} :
    file.emission.Writes bytes ↔
      ∃ constants interfaces fields methods attributes,
        Emission.Writes (file.pool.constants.flatMap Entry.emission) constants ∧
        Emission.Writes (Emission.table Emission.word16 file.interfaces) interfaces ∧
        Emission.Writes (Emission.table Member.emission file.fields) fields ∧
        Emission.Writes (Emission.table Member.emission file.methods) methods ∧
        Emission.Writes (Emission.table Attribute.emission file.attributes) attributes ∧
        bytes = Bytes.ofUInt32 magic ++ (Bytes.ofUInt16 file.minorVersion ++
          (Bytes.ofUInt16 file.majorVersion ++ (Bytes.ofUInt16 file.pool.count ++
            (constants ++ (Bytes.ofUInt16 file.accessFlags ++ (Bytes.ofUInt16 file.thisClass ++
              (Bytes.ofUInt16 file.superClass ++ (interfaces ++
                (fields ++ (methods ++ attributes)))))))))) := by
  simp only [emission, ConstantPool.emission_eq, List.append_assoc, List.cons_append,
    Emission.writes_cons_bytes, Emission.writes_word16_append]
  constructor
  · rintro ⟨_, ⟨_, ⟨_, ⟨_, wroteRest, rfl⟩, rfl⟩, rfl⟩, rfl⟩
    rcases Emission.writes_append.mp wroteRest with
      ⟨constants, _, wroteConstants, wroteHeading, rfl⟩
    simp only [Emission.writes_word16_append] at wroteHeading
    rcases wroteHeading with ⟨_, ⟨_, ⟨_, wroteTables, rfl⟩, rfl⟩, rfl⟩
    rcases Emission.writes_append.mp wroteTables with
      ⟨interfaces, _, wroteInterfaces, wroteMembers, rfl⟩
    rcases Emission.writes_append.mp wroteMembers with ⟨fields, _, wroteFields, wroteLast, rfl⟩
    rcases Emission.writes_append.mp wroteLast with
      ⟨methods, attributes, wroteMethods, wroteAttributes, rfl⟩
    exact ⟨constants, interfaces, fields, methods, attributes, wroteConstants, wroteInterfaces,
      wroteFields, wroteMethods, wroteAttributes, rfl⟩
  · rintro ⟨constants, interfaces, fields, methods, attributes, wroteConstants, wroteInterfaces,
      wroteFields, wroteMethods, wroteAttributes, rfl⟩
    have wroteTables := wroteInterfaces.append (wroteFields.append
      (wroteMethods.append wroteAttributes))
    have wroteHeading := (Emission.Writes.ofWord16 file.accessFlags).append
      ((Emission.Writes.ofWord16 file.thisClass).append
        ((Emission.Writes.ofWord16 file.superClass).append wroteTables))
    exact ⟨_, ⟨_, ⟨_, ⟨_, wroteConstants.append wroteHeading, rfl⟩, rfl⟩, rfl⟩, rfl⟩

/-- A class file is read exactly from what it writes, if its constant pool is laid out properly. -/
theorem decoder_eq_ok_iff {input rest : Bytes} {file : ClassFile} :
    decoder input = .ok file rest ↔
      file.pool.Layout ∧ ∃ bytes, file.emission.Writes bytes ∧ input = bytes ++ rest := by
  simp only [decoder, Decoder.bind_eq_ok_iff, Prologue.decoder_eq_ok_iff,
    ConstantPool.decoder_eq_ok_iff, Heading.decoder_eq_ok_iff,
    Member.decoder_reads.table.eq_ok_iff, Attribute.decoder_reads.table.eq_ok_iff,
    Decoder.pure_eq_ok_iff, writes_emission]
  constructor
  · rintro ⟨prologue, _, rfl, pool, _, ⟨layout, count_eq, constants, wroteConstants, rfl⟩,
      heading, _, ⟨interfaces, wroteInterfaces, rfl⟩, _, _, ⟨fields, wroteFields, rfl⟩, _, _,
      ⟨methods, wroteMethods, rfl⟩, _, _, ⟨attributes, wroteAttributes, rfl⟩, rfl, rfl⟩
    refine ⟨layout, _, ⟨constants, interfaces, fields, methods, attributes, wroteConstants,
      wroteInterfaces, wroteFields, wroteMethods, wroteAttributes, rfl⟩, ?_⟩
    simp only [count_eq, List.append_assoc]
  · rintro ⟨layout, _, ⟨constants, interfaces, fields, methods, attributes, wroteConstants,
      wroteInterfaces, wroteFields, wroteMethods, wroteAttributes, rfl⟩, rfl⟩
    simp only [List.append_assoc]
    exact ⟨⟨_, _, _⟩, _, rfl, _, _, ⟨layout, rfl, constants, wroteConstants, rfl⟩, ⟨_, _, _, _⟩, _,
      ⟨interfaces, wroteInterfaces, rfl⟩, _, _, ⟨fields, wroteFields, rfl⟩, _, _,
      ⟨methods, wroteMethods, rfl⟩, _, _, ⟨attributes, wroteAttributes, rfl⟩, rfl, rfl⟩

theorem encode_eq_ok_iff {file : ClassFile} {bytes : Bytes} :
    file.encode = .ok bytes ↔ file.emission.Writes bytes := by
  rw [← Emission.toGrowing_eq_ok_iff, encode]
  rcases file.emission.toGrowing with ⟨written, result⟩
  cases result with
  | ok done => simp [Except.map]
  | error error => simp [Except.map]

end ClassFile

namespace Document

/-- A document is opened from the bytes that its class file writes and from what follows them.  What
follows is empty or to be ignored. -/
theorem parse_eq_ok_iff {fresh : Identity} {trailing : TrailingData} {bytes : Bytes}
    {document : Document} :
    (parse fresh trailing bytes).result = .ok document ↔
      document.identity = fresh ∧ ∃ rest, ClassFile.decoder bytes = .ok document.file rest ∧
        (trailing = .reject → rest = []) := by
  unfold parse
  cases decoded : ClassFile.decoder bytes with
  | error error rest => simp
  | ok file rest =>
      cases rest with
      | nil =>
          simp only [List.length_nil, if_true, Except.ok.injEq]
          constructor
          · rintro rfl
            exact ⟨rfl, [], rfl, fun _ => rfl⟩
          · rintro ⟨rfl, _, same, _⟩
            cases same
            rfl
      | cons byte rest =>
          cases trailing with
          | reject =>
              simp only [List.length_cons, Nat.add_eq_zero_iff, Nat.one_ne_zero, and_false,
                if_false, reduceCtorEq, false_iff]
              rintro ⟨_, _, same, none_left⟩
              cases same
              exact absurd (none_left trivial) (List.cons_ne_nil byte rest)
          | ignore =>
              simp only [List.length_cons, Nat.add_eq_zero_iff, Nat.one_ne_zero, and_false,
                if_false, Except.ok.injEq]
              constructor
              · rintro rfl
                exact ⟨rfl, byte :: rest, rfl, nofun⟩
              · rintro ⟨rfl, _, same, _⟩
                cases same
                rfl

/-- Bytes behind a class file are counted when they are refused. -/
theorem parse_reject_of_rest {fresh : Identity} {bytes rest : Bytes} {file : ClassFile}
    (decoded : ClassFile.decoder bytes = .ok file rest) (left : rest ≠ []) :
    (parse fresh .reject bytes).result = .error (.trailingBytes rest.length) := by
  have nonzero : rest.length ≠ 0 := fun zero => left (List.length_eq_zero_iff.mp zero)
  simp only [parse, decoded, nonzero, if_false]

/-- A class file that was opened with nothing behind it writes the bytes it was opened from. -/
theorem encode_of_opened {fresh : Identity} {bytes : Bytes} {document : Document}
    (opened : (parse fresh .reject bytes).result = .ok document) :
    document.file.encode = .ok bytes := by
  rcases parse_eq_ok_iff.mp opened with ⟨_, rest, decoded, none_left⟩
  obtain rfl := none_left rfl
  rcases ClassFile.decoder_eq_ok_iff.mp decoded with ⟨_, front, wrote, bytes_eq⟩
  rw [bytes_eq, List.append_nil]
  exact ClassFile.encode_eq_ok_iff.mpr wrote

/-- A class file that was opened writes the bytes it was opened from.  If bytes behind it were
ignored, it writes all but these. -/
theorem encode_of_parse (fresh : Identity) (bytes : Bytes) :
    (∀ document, (parse fresh .reject bytes).result = .ok document →
        document.file.encode = .ok bytes) ∧
      ∀ document, (parse fresh .ignore bytes).result = .ok document →
        ∃ front ignored, document.file.encode = .ok front ∧ bytes = front ++ ignored ∧
          ClassFile.decoder bytes = .ok document.file ignored := by
  constructor
  · intro document opened
    exact encode_of_opened opened
  · intro document opened
    rcases parse_eq_ok_iff.mp opened with ⟨_, ignored, decoded, _⟩
    rcases ClassFile.decoder_eq_ok_iff.mp decoded with ⟨_, front, wrote, bytes_eq⟩
    exact ⟨front, ignored, ClassFile.encode_eq_ok_iff.mpr wrote, bytes_eq, decoded⟩

/-- The bytes of a class with a constant of two slots, an interface, and a field that has an
attribute. -/
def sampleBytes : Bytes :=
  [0xCA, 0xFE, 0xBA, 0xBE, 0, 0, 0, 65, 0, 5,
    5, 0, 0, 0, 0, 0, 0, 0, 7, 1, 0, 1, 0x41, 7, 0, 3,
    0, 0x21, 0, 4, 0, 0, 0, 1, 0, 4,
    0, 1, 0, 2, 0, 3, 0, 3, 0, 1, 0, 3, 0, 0, 0, 1, 0xFF, 0, 0, 0, 0]

/-- The class file of `sampleBytes`. -/
def sampleFile : ClassFile where
  minorVersion := 0
  majorVersion := 65
  pool := ⟨#[.reserved, .filled (.long 7), .reserved, .filled (.utf8 ⟨[0x41]⟩),
    .filled (.classRef 3)]⟩
  accessFlags := 0x21
  thisClass := 4
  superClass := 0
  interfaces := [4]
  fields := [⟨2, 3, 3, [⟨3, [0xFF]⟩]⟩]
  methods := []
  attributes := []

theorem encode_of_parse_sample :
    ((parse ⟨0⟩ .reject sampleBytes).result = .ok ⟨⟨0⟩, sampleFile⟩ ∧
        sampleFile.encode = .ok sampleBytes) ∧
      (parse ⟨0⟩ .ignore (sampleBytes ++ [9, 9])).result = .ok ⟨⟨0⟩, sampleFile⟩ ∧
        ∃ front ignored, sampleFile.encode = .ok front ∧ sampleBytes ++ [9, 9] = front ++ ignored ∧
          ClassFile.decoder (sampleBytes ++ [9, 9]) = .ok sampleFile ignored :=
  ⟨⟨rfl, (encode_of_parse ⟨0⟩ sampleBytes).1 ⟨⟨0⟩, sampleFile⟩ rfl⟩,
    rfl, (encode_of_parse ⟨0⟩ (sampleBytes ++ [9, 9])).2 ⟨⟨0⟩, sampleFile⟩ rfl⟩

end Document

end ClassFormat

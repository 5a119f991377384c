import ClassFormat.Proofs.PoolEdits
import Mathlib.Algebra.GroupWithZero.Nat

/-!
# Where edits show in the bytes of a class file

The place of a word in the bytes is the sum of the sizes of what stands in front of it
(`ClassFile.offset`), and no size depends on the words that edits change.  So an edit that changes a
word exchanges two bytes, and one that adds a constant exchanges the count and inserts the bytes of
the constant behind those of the others.

`Emission.WordAt` says where a word is within what an emission writes.  It is built up along the
emissions: a word stays at its place if something follows, and is moved by the size of what is put
in front.
-/

namespace ClassFormat

namespace Emission

/-! ## Sizes -/

/-- All that an emission can write has the given length. -/
def Sized (emission : Emission) (size : Nat) : Prop :=
  ∀ ⦃bytes : Bytes⦄, emission.Writes bytes → bytes.length = size

variable {α : Type} {first second : Emission} {size : Nat}

theorem sized_word16 (n : UInt16) : (word16 n).Sized 2 := by
  intro bytes wrote
  rw [writes_word16.mp wrote]
  rfl

theorem sized_length16 (length : Nat) : (length16 length).Sized 2 := by
  intro bytes wrote
  rw [(writes_length16.mp wrote).2]
  rfl

theorem Sized.append {rest : Nat} (firstSized : first.Sized size)
    (secondSized : second.Sized rest) :
    Emission.Sized (first ++ second) (size + rest) := by
  intro bytes wrote
  rcases writes_append.mp wrote with ⟨front, back, wroteFront, wroteBack, rfl⟩
  rw [List.length_append, firstSized wroteFront, secondSized wroteBack]

theorem sized_flatMap {item : α → Emission} {itemSize : α → Nat}
    (sized : ∀ value, (item value).Sized (itemSize value)) (items : List α) :
    Emission.Sized (items.flatMap item) (items.map itemSize).sum := by
  induction items with
  | nil =>
      intro bytes wrote
      rw [writes_nil.mp wrote]
      rfl
  | cons value items ih =>
      rw [List.flatMap_cons, List.map_cons, List.sum_cons]
      exact (sized value).append ih

/-- The size of a table: two bytes for the number of items, and the items. -/
def tableSize (itemSize : α → Nat) (items : List α) : Nat :=
  2 + (items.map itemSize).sum

theorem sized_table {item : α → Emission} {itemSize : α → Nat}
    (sized : ∀ value, (item value).Sized (itemSize value)) (items : List α) :
    Emission.Sized (table item items) (tableSize itemSize items) :=
  (sized_length16 _).append (sized_flatMap sized items)

/-! ## Places of words -/

/-- What an emission writes has a word at an offset, and nothing else in it depends on the word. -/
def WordAt (emission : UInt16 → Emission) (offset : Nat) : Prop :=
  ∀ ⦃word : UInt16⦄ ⦃bytes : Bytes⦄, (emission word).Writes bytes →
    ∃ front back, front.length = offset ∧ bytes = front ++ (Bytes.ofUInt16 word ++ back) ∧
      ∀ other, (emission other).Writes (front ++ (Bytes.ofUInt16 other ++ back))

variable {emission : UInt16 → Emission} {offset : Nat}

theorem wordAt_word16 : WordAt word16 0 := by
  intro word bytes wrote
  refine ⟨[], [], rfl, ?_, fun other => ?_⟩
  · rw [writes_word16.mp wrote, List.nil_append, List.append_nil]
  · rw [List.nil_append, List.append_nil]
    exact Writes.ofWord16 other

theorem WordAt.behind (wordAt : WordAt emission offset) (sized : first.Sized size) :
    WordAt (fun word => first ++ emission word) (size + offset) := by
  intro word bytes wrote
  rcases writes_append.mp wrote with ⟨written, _, wroteFirst, wroteRest, rfl⟩
  rcases wordAt wroteRest with ⟨front, back, rfl, rfl, others⟩
  refine ⟨written ++ front, back, ?_, (List.append_assoc ..).symm, fun other => ?_⟩
  · rw [List.length_append, sized wroteFirst]
  · rw [List.append_assoc]
    exact wroteFirst.append (others other)

theorem WordAt.before (wordAt : WordAt emission offset) (rest : Emission) :
    WordAt (fun word => emission word ++ rest) offset := by
  intro word bytes wrote
  rcases writes_append.mp wrote with ⟨_, written, wroteFirst, wroteRest, rfl⟩
  rcases wordAt wroteFirst with ⟨front, back, length_eq, rfl, others⟩
  refine ⟨front, back ++ written, length_eq, by simp only [List.append_assoc], fun other => ?_⟩
  have wroteOther := (others other).append wroteRest
  simpa only [List.append_assoc] using wroteOther

/-- A word of an item is behind the items in front. -/
theorem WordAt.table {item : α → Emission} {itemSize : α → Nat}
    (sized : ∀ value, (item value).Sized (itemSize value)) {items : List α} {position : Nat}
    (inside : position < items.length) {change : UInt16 → α → α}
    (wordAt : WordAt (fun word => item (change word items[position])) offset) :
    WordAt (fun word => Emission.table item (items.modify position (change word)))
      (tableSize itemSize (items.take position) + offset) := by
  have parts (word : UInt16) :
      Emission.table item (items.modify position (change word)) =
        length16 items.length ++ (items.take position).flatMap item ++
          (item (change word items[position]) ++ (items.drop (position + 1)).flatMap item) := by
    rw [Emission.table, List.length_modify, List.modify_eq_take_cons_drop inside,
      List.flatMap_append, List.flatMap_cons, List.append_assoc]
  simp only [parts]
  exact (wordAt.before _).behind ((sized_length16 _).append (sized_flatMap sized _))

end Emission

/-! ## Places in a class file -/

/-- The number of bytes of an attribute. -/
def Attribute.size (item : Attribute) : Nat :=
  6 + item.payload.length

theorem Attribute.sized_emission (item : Attribute) : item.emission.Sized item.size := by
  intro bytes wrote
  rw [(writes_emission.mp wrote).2, size, List.length_append, List.length_append, ← Nat.add_assoc]
  rfl

namespace Member

/-- The number of bytes of a member. -/
def size (member : Member) : Nat :=
  6 + Emission.tableSize Attribute.size member.attributes

theorem sized_emission (member : Member) : member.emission.Sized member.size :=
  (((Emission.sized_word16 _).append (Emission.sized_word16 _)).append
    (Emission.sized_word16 _)).append (Emission.sized_table Attribute.sized_emission _)

end Member

/-- Where a word of a member is within its bytes. -/
def MemberWord.offset : MemberWord → Nat
  | .accessFlags => 0
  | .name => 2
  | .descriptor => 4

theorem Member.wordAt (member : Member) (part : MemberWord) :
    Emission.WordAt (fun word => (member.modifyWord (fun _ => word) part).emission)
      part.offset := by
  have word := Emission.wordAt_word16
  cases part with
  | accessFlags =>
      simp only [emission, modifyWord]
      exact ((word.before _).before _).before _
  | name =>
      simp only [emission, modifyWord]
      exact ((word.behind (Emission.sized_word16 _)).before _).before _
  | descriptor =>
      simp only [emission, modifyWord]
      have behind := (Emission.sized_word16 member.accessFlags).append
        (Emission.sized_word16 member.nameIndex)
      exact (word.behind behind).before _

/-- The number of bytes of a constant. -/
def Entry.size (entry : Entry) : Nat :=
  entry.bytes.length

theorem Entry.sized_emission (entry : Entry) : entry.emission.Sized entry.size := by
  intro bytes wrote
  rw [(writes_emission.mp wrote).2, size]

namespace ClassFile

variable {file : ClassFile}

/-- Where the constants end: behind the magic number, the version, and the count. -/
def poolEnd (file : ClassFile) : Nat :=
  10 + (file.pool.constants.map Entry.size).sum

/-- Where a table of members starts. -/
def tableStart (file : ClassFile) : MemberTable → Nat
  | .fields => file.poolEnd + 6 + Emission.tableSize (fun _ => 2) file.interfaces
  | .methods =>
      file.poolEnd + 6 + Emission.tableSize (fun _ => 2) file.interfaces +
        Emission.tableSize Member.size file.fields

/-- Where a word is within the bytes of a class file. -/
def offset (file : ClassFile) : WordPlace → Nat
  | .accessFlags => file.poolEnd
  | .thisClass => file.poolEnd + 2
  | .superClass => file.poolEnd + 4
  | .member table position part =>
      file.tableStart table +
        (Emission.tableSize Member.size ((file.table table).take position) + part.offset)

/-- All that is written up to the end of the constants. -/
theorem sized_constants (file : ClassFile) :
    Emission.Sized
      (.bytes (Bytes.ofUInt32 magic) :: Emission.word16 file.minorVersion ++
        Emission.word16 file.majorVersion ++ file.pool.emission) file.poolEnd := by
  intro bytes wrote
  rw [List.append_assoc, List.cons_append, Emission.writes_cons_bytes] at wrote
  rcases wrote with ⟨rest, wroteRest, rfl⟩
  have constants := (Emission.sized_word16 file.pool.count).append
    (Emission.sized_flatMap Entry.sized_emission file.pool.constants)
  have versions := (Emission.sized_word16 file.minorVersion).append
    ((Emission.sized_word16 file.majorVersion).append constants)
  rw [List.length_append, versions wroteRest, poolEnd]
  change 4 + _ = _
  omega

/-- The words of a class file are where `ClassFile.offset` says. -/
theorem wordAt {place : WordPlace} {old : UInt16} (held : file.word? place = some old) :
    Emission.WordAt (fun word => (file.modifyWord (fun _ => word) place).emission)
      (file.offset place) := by
  have word := Emission.wordAt_word16
  have constants := file.sized_constants
  have flags := constants.append (Emission.sized_word16 file.accessFlags)
  have thisClass := flags.append (Emission.sized_word16 file.thisClass)
  have heading := thisClass.append (Emission.sized_word16 file.superClass)
  have interfaces := heading.append (Emission.sized_table Emission.sized_word16 file.interfaces)
  have fields := interfaces.append (Emission.sized_table Member.sized_emission file.fields)
  cases place with
  | accessFlags =>
      simp only [emission, modifyWord]
      exact ((((((word.behind constants).before _).before _).before _).before _).before _).before _
  | thisClass =>
      simp only [emission, modifyWord]
      exact (((((word.behind flags).before _).before _).before _).before _).before _
  | superClass =>
      simp only [emission, modifyWord]
      exact ((((word.behind thisClass).before _).before _).before _).before _
  | member table position part =>
      rcases Option.map_eq_some_iff.mp held with ⟨_, found, _⟩
      rcases List.getElem?_eq_some_iff.mp found with ⟨inside, _⟩
      have member := Emission.WordAt.table Member.sized_emission inside (Member.wordAt _ part)
      cases table with
      | fields =>
          simp only [emission, modifyWord, modifyMember, withTable]
          exact ((member.behind interfaces).before _).before _
      | methods =>
          simp only [emission, modifyWord, modifyMember, withTable]
          exact (member.behind fields).before _

end ClassFile

/-- As long as there is room for it, a constant of one slot raises the count by one. -/
theorem ConstantPool.toNat_count_append {pool : ConstantPool} {entry : Entry}
    (narrow : entry.isWide = false) (room : pool.hasRoom entry = true) :
    (pool.append entry).count.toNat = pool.count.toNat + 1 := by
  have width_eq : entry.width = 1 := by simp [Entry.width, narrow]
  have size_eq := pool.size_append entry
  rw [toNat_count_of_hasRoom room]
  simp only [hasRoom, decide_eq_true_eq] at room
  rw [← width_eq, ← size_eq]
  exact UInt16.toNat_ofNat_of_lt' (size_eq ▸ room)

/-! ## Changed bytes -/

/-- The bytes differ at most in the two bytes at an offset, where they have the two words. -/
structure Bytes.ExchangesWord (before after : Bytes) (offset : Nat) (old new : UInt16) : Prop where
  length_eq : after.length = before.length
  old_eq : (before.drop offset).take 2 = Bytes.ofUInt16 old
  new_eq : (after.drop offset).take 2 = Bytes.ofUInt16 new
  elsewhere : ∀ position, position < offset ∨ offset + 2 ≤ position →
    after[position]? = before[position]?

theorem Bytes.exchangesWord_append (front back : Bytes) (old new : UInt16) :
    Bytes.ExchangesWord (front ++ (ofUInt16 old ++ back)) (front ++ (ofUInt16 new ++ back))
      front.length old new := by
  have word_eq (n : UInt16) :
      ((front ++ (ofUInt16 n ++ back)).drop front.length).take 2 = ofUInt16 n := by
    rw [List.drop_left]
    exact List.take_left' (length_ofUInt16 n)
  refine ⟨by simp only [List.length_append, length_ofUInt16], word_eq old, word_eq new, ?_⟩
  rintro position (isFront | isBack)
  · rw [List.getElem?_append_left isFront, List.getElem?_append_left isFront]
  · have behind (n : UInt16) :
        (front ++ (ofUInt16 n ++ back))[position]? = back[position - front.length - 2]? := by
      rw [List.getElem?_append_right (by omega),
        List.getElem?_append_right (by rw [length_ofUInt16]; omega), length_ofUInt16]
    rw [behind new, behind old]

namespace ClassFile

variable {file : ClassFile} {encoded : Bytes}

/-- Changing a word changes its two bytes. -/
theorem encode_modifyWord (wrote : file.encode = .ok encoded) {place : WordPlace} {old : UInt16}
    (held : file.word? place = some old) (change : UInt16 → UInt16) :
    ∃ changed, (file.modifyWord change place).encode = .ok changed ∧
      encoded.ExchangesWord changed (file.offset place) old (change old) := by
  have wroteOld : (file.modifyWord (fun _ => old) place).emission.Writes encoded := by
    rw [modifyWord_eq_self held]
    exact encode_eq_ok_iff.mp wrote
  rcases wordAt held wroteOld with ⟨front, back, length_eq, rfl, others⟩
  have constant : file.modifyWord change place = file.modifyWord (fun _ => change old) place := by
    refine modifyWord_congr fun word found => ?_
    rw [Option.some.inj (held.symm.trans found)]
  refine ⟨front ++ (Bytes.ofUInt16 (change old) ++ back), ?_, ?_⟩
  · rw [constant]
    exact encode_eq_ok_iff.mpr (others (change old))
  · rw [← length_eq]
    exact Bytes.exchangesWord_append ..

/-- The class file is written as another one, but with a constant inserted behind the last one and
with the count that goes with it. -/
def InsertsConstant (before after : ClassFile) (encoded : Bytes) (entry : Entry) : Prop :=
  ∃ front constants inserted back,
    front.length = 8 ∧
      Emission.Writes (before.pool.constants.flatMap Entry.emission) constants ∧
      entry.emission.Writes inserted ∧
      after.pool.count.toNat = before.pool.count.toNat + 1 ∧
      encoded = front ++ (Bytes.ofUInt16 before.pool.count ++ (constants ++ back)) ∧
      after.encode =
        .ok (front ++ (Bytes.ofUInt16 after.pool.count ++ (constants ++ (inserted ++ back))))

/-- Appending a constant inserts its bytes. -/
theorem encode_append (wrote : file.encode = .ok encoded) {entry : Entry}
    (fits : entry.Fits) (narrow : entry.isWide = false)
    (room : file.pool.hasRoom entry = true) :
    file.InsertsConstant { file with pool := file.pool.append entry } encoded entry := by
  rcases writes_emission.mp (encode_eq_ok_iff.mp wrote) with
    ⟨constants, interfaces, fields, methods, attributes, wroteConstants, wroteInterfaces,
      wroteFields, wroteMethods, wroteAttributes, rfl⟩
  have wroteEntry : entry.emission.Writes entry.bytes := Entry.writes_emission.mpr ⟨fits, rfl⟩
  have wroteAll : Emission.Writes ((file.pool.append entry).constants.flatMap Entry.emission)
      (constants ++ entry.bytes) := by
    rw [ConstantPool.constants_append, List.flatMap_append, List.flatMap_singleton]
    exact wroteConstants.append wroteEntry
  refine ⟨Bytes.ofUInt32 magic ++ (Bytes.ofUInt16 file.minorVersion ++
      Bytes.ofUInt16 file.majorVersion), constants, entry.bytes,
    Bytes.ofUInt16 file.accessFlags ++ (Bytes.ofUInt16 file.thisClass ++
      (Bytes.ofUInt16 file.superClass ++ (interfaces ++ (fields ++ (methods ++ attributes))))),
    rfl, wroteConstants, wroteEntry, ConstantPool.toNat_count_append narrow room, ?_, ?_⟩
  · simp only [List.append_assoc]
  · refine encode_eq_ok_iff.mpr (writes_emission.mpr ⟨_, _, _, _, _, wroteAll, wroteInterfaces,
      wroteFields, wroteMethods, wroteAttributes, ?_⟩)
    simp only [List.append_assoc]

end ClassFile

namespace Document

variable {document : Document} {encoded : Bytes}

/-- An edit that adds a constant and changes the document inserts the constant. -/
theorem insertsConstant_of_adds (wrote : document.file.encode = .ok encoded) {edit : Edit}
    {addition : Addition} (adds : edit.addition? = some addition) (fits : addition.entry.Fits)
    (changed : (document.perform edit).document ≠ document) :
    document.file.InsertsConstant (document.perform edit).document.file encoded
      addition.entry := by
  have outcome := document.perform_outcome edit
  generalize document.perform edit = edited at outcome changed ⊢
  cases outcome with
  | refused | found | full => exact absurd rfl changed
  | altered _ alters => exact (Edit.not_alters_and_adds alters adds).elim
  | appended _ addsThis _ room =>
      cases adds.symm.trans addsThis
      exact ClassFile.encode_append wrote fits (Edit.isWide_of_addition? adds) room

/-- Edits are local in the bytes.  If a class file can be written, so can it be after an edit that
changes a word, and at most the two bytes at the place of the word differ.  If a constant is
appended, the bytes differ in the count, and the constant is inserted behind the others. -/
theorem encode_perform_local {document : Document} {encoded : Bytes}
    (wrote : document.file.encode = .ok encoded) :
    (∀ edit place change answer, edit.alteration? = some (.word place change) →
      (document.perform edit).result = .ok answer →
      ∃ old changed, document.file.word? place = some old ∧
        (document.perform edit).document.file.word? place = some (change old) ∧
        (document.perform edit).document.file.encode = .ok changed ∧
        encoded.ExchangesWord changed (document.file.offset place) old (change old)) ∧
    (∀ text, (ModifiedUtf8.ofString text).bytes.length ≤ 65535 →
      (document.addUtf8 text).document ≠ document →
      document.file.InsertsConstant (document.addUtf8 text).document.file encoded
        (.utf8 (.ofString text))) ∧
    (∀ name, (document.addClass name).document ≠ document →
      document.file.InsertsConstant (document.addClass name).document.file encoded
        (.classRef name.index)) := by
  refine ⟨fun edit place change answer alters succeeded => ?_, fun text short appended => ?_,
    fun name appended => ?_⟩
  · have admitted := admits_of_perform_eq_ok succeeded
    rcases has_of_admits alters admitted with ⟨old, held⟩
    have document_eq := document.perform_document alters
    rw [if_pos (firstFailure?_eq_none_iff.mpr admitted)] at document_eq
    rcases ClassFile.encode_modifyWord wrote held change with ⟨changed, encodes, exchanges⟩
    refine ⟨old, changed, held, ?_, ?_, exchanges⟩
    · rw [document_eq, ClassFile.alter, ClassFile.word?_modifyWord, if_pos rfl, held]
      rfl
    · rw [document_eq]
      exact encodes
  · have fits : Entry.Fits (.utf8 (.ofString text)) := fun _ => Nat.lt_succ_of_le short
    have adds : (Edit.addUtf8 text).addition? = some _ := rfl
    exact insertsConstant_of_adds wrote adds fits appended
  · have fits : Entry.Fits (.classRef name.index) := by
      intro isUtf8
      cases isUtf8
    have adds : (Edit.addClass name).addition? = some _ := rfl
    exact insertsConstant_of_adds wrote adds fits appended

theorem encode_perform_local_sample :
    let pool : ConstantPool := ⟨#[.reserved, .filled (.long 7), .reserved,
      .filled (.utf8 ⟨[0x41]⟩), .filled (.utf8 ⟨[0x42]⟩)]⟩
    let document : Document := ⟨⟨0⟩, { sampleFile with pool := pool }⟩
    let encoded := sampleBytes.take 23 ++ [1, 0, 1, 0x42] ++ sampleBytes.drop 26
    let edit : Edit := .memberFlags ⟨⟨0⟩, .fields, 0⟩ [.set 2 false, .set 9 true]
    document.file.encode = .ok encoded ∧
      (∃ changed, (document.perform edit).document.file.encode = .ok changed ∧
        encoded.ExchangesWord changed 39 2 9) ∧
      document.file.InsertsConstant (document.addUtf8 "C").document.file encoded
        (.utf8 (.ofString "C")) ∧
      document.file.InsertsConstant (document.addClass ⟨⟨0⟩, 3⟩).document.file encoded
        (.classRef 3) := by
  intro pool document encoded edit
  have wrote : document.file.encode = .ok encoded := by decide +kernel
  rcases encode_perform_local wrote with ⟨words, strings, classes⟩
  rcases words edit (.member .fields 0 .accessFlags) _ _ rfl rfl with
    ⟨_, changed, ⟨⟩, _, encodes, exchanges⟩
  have short : (ModifiedUtf8.ofString "C").bytes.length ≤ 65535 := by decide +kernel
  have newString : (document.addUtf8 "C").document.file.pool.count ≠ pool.count := by
    decide +kernel
  have newClass : (document.addClass ⟨⟨0⟩, 3⟩).document.file.pool.count ≠ pool.count := by
    decide +kernel
  exact ⟨wrote, ⟨changed, encodes, exchanges⟩,
    strings "C" short fun same => newString (congrArg (fun after => after.file.pool.count) same),
    classes ⟨⟨0⟩, 3⟩ fun same => newClass (congrArg (fun after => after.file.pool.count) same)⟩

end Document

end ClassFormat

import ClassFormat.Proofs.EntryGrammar
import ClassFormat.Proofs.PoolIndex

/-!
# What the bytes of a constant pool can be

A pool with a given count is read from constants that take exactly the slots behind the first.  Any
other input goes wrong in one of three ways: behind constants that leave slots free there is an
unknown tag or the input ends, or a constant of two slots starts in the last one.

The four cases (`PoolVerdict.Describes`) exclude each other and leave nothing out, and each of them
says what reading the pool gives and how much of the input it leaves
(`ConstantPool.decoder_classified`).
-/

namespace ClassFormat

/-- What reading the constants of a pool comes to. -/
inductive PoolVerdict where
  /-- The constants fill the pool. -/
  | complete (constants : List Entry) (rest : Bytes)
  /-- The pool goes on with a tag that no kind has. -/
  | unknownTag (tag : UInt8) (rest : Bytes)
  /-- A constant of two slots starts in the last one. -/
  | overflow (rest : Bytes)
  /-- The input ends before the pool. -/
  | cutShort

namespace PoolVerdict

/-- The case that a verdict stands for, with the input it is about. -/
def Describes (count : Nat) (input : Bytes) : PoolVerdict → Prop
  | .complete constants rest =>
      1 + ConstantPool.totalWidth constants = count ∧
        ∃ bytes, Emission.Writes (constants.flatMap Entry.emission) bytes ∧ input = bytes ++ rest
  | .unknownTag tag rest =>
      (∀ kind : Kind, kind.tag ≠ tag) ∧
        ∃ constants bytes, 1 + ConstantPool.totalWidth constants < count ∧
          Emission.Writes (constants.flatMap Entry.emission) bytes ∧ input = bytes ++ tag :: rest
  | .overflow rest =>
      ∃ constants last bytes, last.isWide = true ∧
        1 + ConstantPool.totalWidth constants = count - 1 ∧
          Emission.Writes ((constants ++ [last]).flatMap Entry.emission) bytes ∧
            input = bytes ++ rest
  | .cutShort =>
      ∃ constants bytes part, 1 + ConstantPool.totalWidth constants < count ∧
        Emission.Writes (constants.flatMap Entry.emission) bytes ∧ Entry.CutShort part ∧
          input = bytes ++ part

/-- What reading a pool gives in each case, with the bytes that are left. -/
def result : PoolVerdict → EStateM.Result DecodeError Bytes ConstantPool
  | .complete constants rest => .ok (ConstantPool.ofConstants constants) rest
  | .unknownTag tag rest => .error (.unknownTag tag) rest
  | .overflow rest => .error (.malformed .wideOverflow) rest
  | .cutShort => .error .unexpectedEnd []

/-- The result tells the cases apart. -/
theorem result_injective : Function.Injective result := by
  have constants_injective : Function.Injective ConstantPool.ofConstants :=
    Function.LeftInverse.injective ConstantPool.constants_ofConstants
  intro first second same
  cases first <;> cases second <;>
    simp_all [result, constants_injective.eq_iff]

/-- A constant in front of the input that a verdict is about. -/
def cons (entry : Entry) : PoolVerdict → PoolVerdict
  | .complete constants rest => .complete (entry :: constants) rest
  | verdict => verdict

/-- A constant in front takes its slots from the count and leaves the case as it is. -/
theorem Describes.cons {count : Nat} {input front : Bytes} {verdict : PoolVerdict} {entry : Entry}
    (described : verdict.Describes count input) (wrote : entry.emission.Writes front) :
    (verdict.cons entry).Describes (entry.width + count) (front ++ input) := by
  have positive := entry.width_eq_one_or_two
  cases verdict with
  | complete constants rest =>
      rcases described with ⟨width_eq, bytes, wroteRest, rfl⟩
      refine ⟨?_, front ++ bytes, wrote.append wroteRest, by rw [List.append_assoc]⟩
      rw [ConstantPool.totalWidth_cons]
      omega
  | unknownTag tag rest =>
      rcases described with ⟨unknown, constants, bytes, width_lt, wroteRest, rfl⟩
      refine ⟨unknown, entry :: constants, front ++ bytes, ?_, wrote.append wroteRest,
        by rw [List.append_assoc]⟩
      rw [ConstantPool.totalWidth_cons]
      omega
  | overflow rest =>
      rcases described with ⟨constants, last, bytes, wide, width_eq, wroteRest, rfl⟩
      refine ⟨entry :: constants, last, front ++ bytes, wide, ?_, wrote.append wroteRest,
        by rw [List.append_assoc]⟩
      rw [ConstantPool.totalWidth_cons]
      omega
  | cutShort =>
      rcases described with ⟨constants, bytes, part, width_lt, wroteRest, cut, rfl⟩
      refine ⟨entry :: constants, front ++ bytes, part, ?_, wrote.append wroteRest, cut,
        by rw [List.append_assoc]⟩
      rw [ConstantPool.totalWidth_cons]
      omega

/-- Every input is one of the cases: this is decided by the first constant or, if that has room, by
what follows it. -/
theorem exists_describes (left : Nat) (input : Bytes) :
    ∃ verdict : PoolVerdict, verdict.Describes (left + 1) input := by
  induction left using Nat.strongRecOn generalizing input with
  | _ left ih =>
      cases left with
      | zero => exact ⟨.complete [] input, rfl, [], Emission.writes_nil.mpr rfl, rfl⟩
      | succ left =>
          have none : Emission.Writes (([] : List Entry).flatMap Entry.emission) [] :=
            Emission.writes_nil.mpr rfl
          have free : 1 + ConstantPool.totalWidth [] < left + 1 + 1 := by
            rw [ConstantPool.totalWidth_nil]
            omega
          cases read : Entry.decoder input with
          | error error rest =>
              rcases Entry.decoder_eq_error_iff.mp read with
                ⟨tag, unknown, rfl, _⟩ | ⟨cut, _, _⟩
              · exact ⟨.unknownTag tag rest, unknown, [], [], free, none, rfl⟩
              · exact ⟨.cutShort, [], [], input, free, none, cut, rfl⟩
          | ok entry rest =>
              rcases Entry.decoder_reads.eq_ok_iff.mp read with ⟨front, wrote, rfl⟩
              have positive := entry.width_eq_one_or_two
              by_cases room : entry.width ≤ left + 1
              · rcases ih (left + 1 - entry.width) (by omega) rest with ⟨verdict, described⟩
                have count_eq : entry.width + (left + 1 - entry.width + 1) = left + 1 + 1 := by
                  omega
                exact ⟨verdict.cons entry, count_eq ▸ described.cons wrote⟩
              · have wide : entry.isWide = true := by
                  by_contra narrow
                  have width_eq : entry.width = 1 := if_neg narrow
                  omega
                refine ⟨.overflow rest, [], entry, front, wide, ?_, ?_, rfl⟩
                · rw [ConstantPool.totalWidth_nil]
                  omega
                · rw [List.nil_append, List.flatMap_singleton]
                  exact wrote

end PoolVerdict

namespace ConstantPool

/-- Reading the constants behind the count gives the result of the case that the input is. -/
theorem fill_eq_result {left : Nat} {input : Bytes} {verdict : PoolVerdict}
    (described : verdict.Describes (left + 1) input) :
    fill left (ofConstants []) input = verdict.result := by
  cases verdict with
  | complete constants rest =>
      rcases described with ⟨width_eq, bytes, wrote, rfl⟩
      obtain rfl : totalWidth constants + 0 = left := by omega
      exact fill_written 0 rest wrote
  | unknownTag tag rest =>
      rcases described with ⟨unknown, constants, bytes, width_lt, wrote, rfl⟩
      obtain ⟨free, rfl⟩ : ∃ free, left = totalWidth constants + (free + 1) :=
        ⟨left - totalWidth constants - 1, by omega⟩
      rw [fill_written _ _ wrote, fill_succ, Entry.decoder_of_unknown unknown]
      rfl
  | overflow rest =>
      rcases described with ⟨constants, last, bytes, wide, width_eq, wrote, rfl⟩
      obtain rfl : left = totalWidth constants + 1 := by omega
      rw [List.flatMap_append, List.flatMap_singleton] at wrote
      rcases Emission.writes_append.mp wrote with ⟨front, back, wroteFront, wroteBack, rfl⟩
      have read : Entry.decoder (back ++ rest) = .ok last rest :=
        Entry.decoder_reads.eq_ok_iff.mpr ⟨back, wroteBack, rfl⟩
      rw [List.append_assoc, fill_written _ _ wroteFront, fill_succ, read]
      simp [Entry.width, wide, PoolVerdict.result]
  | cutShort =>
      rcases described with ⟨constants, bytes, part, width_lt, wrote, cut, rfl⟩
      obtain ⟨free, rfl⟩ : ∃ free, left = totalWidth constants + (free + 1) :=
        ⟨left - totalWidth constants - 1, by omega⟩
      rw [fill_written _ _ wrote, fill_succ, Entry.decoder_of_cutShort cut]
      rfl

/-- Of the four cases exactly one is that of the input, and it determines what reading a pool gives
and what it leaves unread; the constants that were read stand in the pool in order.  A count of zero
is refused before anything is read. -/
theorem decoder_classified (count : UInt16) (input : Bytes) :
    (count ≠ 0 →
      (∃! verdict : PoolVerdict, verdict.Describes count.toNat input) ∧
        ∀ verdict : PoolVerdict, verdict.Describes count.toNat input →
          decoder count input = verdict.result) ∧
      (count = 0 → decoder count input = .error (.malformed .emptyCount) input) ∧
      ∀ constants, (ofConstants constants).entries.map Prod.snd = constants := by
  refine ⟨fun nonzero => ?_, ?_, fun constants => ?_⟩
  · have positive : count.toNat ≠ 0 := fun zero => nonzero (UInt16.toNat_inj.mp zero)
    have slots : count.toNat - 1 + 1 = count.toNat := by omega
    have determined : ∀ verdict : PoolVerdict, verdict.Describes count.toNat input →
        decoder count input = verdict.result := by
      intro verdict described
      rw [decoder, if_neg nonzero, empty_eq_ofConstants]
      exact fill_eq_result (slots.symm ▸ described)
    rcases PoolVerdict.exists_describes (count.toNat - 1) input with ⟨verdict, described⟩
    rw [slots] at described
    refine ⟨⟨verdict, described, fun other otherDescribed => ?_⟩, determined⟩
    apply PoolVerdict.result_injective
    rw [← determined other otherDescribed, ← determined verdict described]
  · rintro rfl
    rfl
  · rw [map_snd_entries, constants_ofConstants]

/-- A constant of two slots and one more byte, with room for the constant and without, and two bytes
with which a reference to a class starts. -/
theorem decoder_classified_sample :
    let input : Bytes := [5, 0, 0, 0, 0, 0, 0, 0, 7, 9]
    ((2 : UInt16) ≠ 0 ∧ decoder 2 input = .error (.malformed .wideOverflow) [9]) ∧
      ((3 : UInt16) ≠ 0 ∧ decoder 3 input = .ok (ofConstants [.long 7]) [9]) ∧
      (∃! verdict : PoolVerdict, verdict.Describes 2 [7, 0]) ∧
      decoder 2 [7, 0] = .error .unexpectedEnd [] ∧
      decoder 0 input = .error (.malformed .emptyCount) input := by
  intro input
  have wrote : Emission.Writes ([Entry.long 7].flatMap Entry.emission)
      [5, 0, 0, 0, 0, 0, 0, 0, 7] := ⟨by decide, rfl⟩
  have cut : Entry.CutShort [7, 0] := ⟨.classRef 1, [1], by decide, by decide, rfl⟩
  have overflowing := ((decoder_classified 2 input).1 (by decide)).2 (.overflow [9])
    ⟨[], .long 7, _, rfl, rfl, wrote, rfl⟩
  have fitting := ((decoder_classified 3 input).1 (by decide)).2 (.complete [.long 7] [9])
    ⟨rfl, _, wrote, rfl⟩
  have ending := (decoder_classified 2 [7, 0]).1 (by decide)
  exact ⟨⟨by decide, overflowing⟩, ⟨by decide, fitting⟩, ending.1,
    ending.2 .cutShort ⟨[], [], [7, 0], by decide, ⟨by decide, rfl⟩, cut, rfl⟩,
    (decoder_classified 0 input).2.1 rfl⟩

end ConstantPool

end ClassFormat

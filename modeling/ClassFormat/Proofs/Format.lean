import ClassFormat.Decoder
import ClassFormat.Emission
import Mathlib.Algebra.GroupWithZero.Nat
import Mathlib.Data.List.TakeWhile

/-!
# Formats read exactly as they are written

A decoder and an emission describe the same format from its two sides.  `Decoder.Reads` says that
they agree: the decoder accepts a value exactly on the bytes that the emission of the value writes,
and leaves whatever follows them.  Words, runs of bytes and tables have this property, and larger
formats inherit it from their parts.
-/

namespace ClassFormat

namespace Bytes

theorem toNat_word16 (upper lower : UInt8) :
    (word16 upper lower).toNat = upper.toNat * 2 ^ 8 + lower.toNat := by
  have upperBound := upper.toNat_lt
  have lowerBound := lower.toNat_lt
  have shifted : upper.toNat <<< (UInt16.toNat 8 % 16) % 2 ^ 16 = upper.toNat <<< 8 := by
    simp [Nat.shiftLeft_eq]
    omega
  simp only [word16, UInt16.toNat_or, UInt16.toNat_shiftLeft, UInt8.toNat_toUInt16]
  rw [shifted, ← Nat.shiftLeft_add_eq_or_of_lt lowerBound, Nat.shiftLeft_eq]

theorem toNat_word32 (upper lower : UInt16) :
    (word32 upper lower).toNat = upper.toNat * 2 ^ 16 + lower.toNat := by
  have upperBound := upper.toNat_lt
  have lowerBound := lower.toNat_lt
  have shifted : upper.toNat <<< (UInt32.toNat 16 % 32) % 2 ^ 32 = upper.toNat <<< 16 := by
    simp [Nat.shiftLeft_eq]
    omega
  simp only [word32, UInt32.toNat_or, UInt32.toNat_shiftLeft, UInt16.toNat_toUInt32]
  rw [shifted, ← Nat.shiftLeft_add_eq_or_of_lt lowerBound, Nat.shiftLeft_eq]

theorem toNat_word64 (upper lower : UInt32) :
    (word64 upper lower).toNat = upper.toNat * 2 ^ 32 + lower.toNat := by
  have upperBound := upper.toNat_lt
  have lowerBound := lower.toNat_lt
  have shifted : upper.toNat <<< (UInt64.toNat 32 % 64) % 2 ^ 64 = upper.toNat <<< 32 := by
    simp [Nat.shiftLeft_eq]
    omega
  simp only [word64, UInt64.toNat_or, UInt64.toNat_shiftLeft, UInt32.toNat_toUInt64]
  rw [shifted, ← Nat.shiftLeft_add_eq_or_of_lt lowerBound, Nat.shiftLeft_eq]

/-- A word made of two bytes is written as these bytes. -/
theorem ofUInt16_word16 (upper lower : UInt8) : ofUInt16 (word16 upper lower) = [upper, lower] := by
  have upperBound := upper.toNat_lt
  have lowerBound := lower.toNat_lt
  have upperHalf : (word16 upper lower >>> 8).toUInt8 = upper := by
    apply UInt8.toNat_inj.mp
    rw [UInt16.toNat_toUInt8, UInt16.toNat_shiftRight, toNat_word16,
      Nat.shiftRight_eq_div_pow]
    change (upper.toNat * 2 ^ 8 + lower.toNat) / 2 ^ 8 % 2 ^ 8 = upper.toNat
    omega
  have lowerHalf : (word16 upper lower).toUInt8 = lower := by
    apply UInt8.toNat_inj.mp
    rw [UInt16.toNat_toUInt8, toNat_word16]
    omega
  rw [ofUInt16, upperHalf, lowerHalf]

/-- A word made of two halves is written as these halves. -/
theorem ofUInt32_word32 (upper lower : UInt16) :
    ofUInt32 (word32 upper lower) = ofUInt16 upper ++ ofUInt16 lower := by
  have upperBound := upper.toNat_lt
  have lowerBound := lower.toNat_lt
  have upperHalf : (word32 upper lower >>> 16).toUInt16 = upper := by
    apply UInt16.toNat_inj.mp
    rw [UInt32.toNat_toUInt16, UInt32.toNat_shiftRight, toNat_word32,
      Nat.shiftRight_eq_div_pow]
    change (upper.toNat * 2 ^ 16 + lower.toNat) / 2 ^ 16 % 2 ^ 16 = upper.toNat
    omega
  have lowerHalf : (word32 upper lower).toUInt16 = lower := by
    apply UInt16.toNat_inj.mp
    rw [UInt32.toNat_toUInt16, toNat_word32]
    omega
  rw [ofUInt32, upperHalf, lowerHalf]

/-- A word made of two halves is written as these halves. -/
theorem ofUInt64_word64 (upper lower : UInt32) :
    ofUInt64 (word64 upper lower) = ofUInt32 upper ++ ofUInt32 lower := by
  have upperBound := upper.toNat_lt
  have lowerBound := lower.toNat_lt
  have upperHalf : (word64 upper lower >>> 32).toUInt32 = upper := by
    apply UInt32.toNat_inj.mp
    rw [UInt64.toNat_toUInt32, UInt64.toNat_shiftRight, toNat_word64,
      Nat.shiftRight_eq_div_pow]
    change (upper.toNat * 2 ^ 32 + lower.toNat) / 2 ^ 32 % 2 ^ 32 = upper.toNat
    omega
  have lowerHalf : (word64 upper lower).toUInt32 = lower := by
    apply UInt32.toNat_inj.mp
    rw [UInt64.toNat_toUInt32, toNat_word64]
    omega
  rw [ofUInt64, upperHalf, lowerHalf]

end Bytes

/-! ## What an emission writes -/

namespace Emission

/-- The emission is written without an error, and these are the bytes. -/
def Writes (emission : Emission) (bytes : Bytes) : Prop :=
  (∀ piece ∈ emission, piece.fits = true) ∧ bytes = emission.flatMap Piece.run

@[simp]
theorem writes_nil {bytes : Bytes} : Writes [] bytes ↔ bytes = [] := by
  simp [Writes]

@[simp]
theorem writes_cons_bytes {run bytes : Bytes} {rest : Emission} :
    Writes (.bytes run :: rest) bytes ↔ ∃ tail, Writes rest tail ∧ bytes = run ++ tail := by
  constructor
  · rintro ⟨fits, rfl⟩
    exact ⟨_, ⟨fun piece mem => fits piece (List.mem_cons_of_mem _ mem), rfl⟩, rfl⟩
  · rintro ⟨_, ⟨fits, rfl⟩, rfl⟩
    refine ⟨fun piece mem => ?_, rfl⟩
    rcases List.mem_cons.mp mem with rfl | mem
    · rfl
    · exact fits piece mem

@[simp]
theorem not_writes_cons_overlong {bytes : Bytes} {rest : Emission} :
    ¬ Writes (.overlong :: rest) bytes := by
  rintro ⟨fits, _⟩
  exact Bool.noConfusion (fits .overlong List.mem_cons_self)

/-- Emissions one after the other write their bytes one after the other. -/
theorem writes_append {first second : Emission} {bytes : Bytes} :
    Writes (first ++ second) bytes ↔
      ∃ front back, Writes first front ∧ Writes second back ∧ bytes = front ++ back := by
  induction first generalizing bytes with
  | nil => simp
  | cons piece first ih =>
      cases piece with
      | bytes run =>
          simp only [List.cons_append, writes_cons_bytes, ih]
          constructor
          · rintro ⟨_, ⟨front, back, wroteFront, wroteBack, rfl⟩, rfl⟩
            exact ⟨run ++ front, back, ⟨front, wroteFront, rfl⟩, wroteBack,
              (List.append_assoc ..).symm⟩
          · rintro ⟨_, back, ⟨front, wroteFront, rfl⟩, wroteBack, rfl⟩
            exact ⟨front ++ back, ⟨front, back, wroteFront, wroteBack, rfl⟩,
              List.append_assoc ..⟩
      | overlong => simp

theorem Writes.append {first second : Emission} {front back : Bytes}
    (wroteFront : first.Writes front) (wroteBack : second.Writes back) :
    Emission.Writes (first ++ second) (front ++ back) :=
  writes_append.mpr ⟨front, back, wroteFront, wroteBack, rfl⟩

theorem writes_word16 {n : UInt16} {bytes : Bytes} :
    Writes (word16 n) bytes ↔ bytes = Bytes.ofUInt16 n := by
  simp [word16]

theorem Writes.ofWord16 (n : UInt16) : (word16 n).Writes (Bytes.ofUInt16 n) :=
  writes_word16.mpr rfl

theorem writes_word16_append {n : UInt16} {rest : Emission} {bytes : Bytes} :
    Writes (word16 n ++ rest) bytes ↔
      ∃ tail, Writes rest tail ∧ bytes = Bytes.ofUInt16 n ++ tail :=
  writes_cons_bytes

theorem writes_length16 {length : Nat} {bytes : Bytes} :
    Writes (length16 length) bytes ↔
      length < 0x10000 ∧ bytes = Bytes.ofUInt16 length.toUInt16 := by
  unfold length16
  split
  · rename_i fits
    simp [fits, writes_word16]
  · rename_i overlong
    simp [overlong]

theorem writes_length32 {length : Nat} {bytes : Bytes} :
    Writes (length32 length) bytes ↔
      length < 0x100000000 ∧ bytes = Bytes.ofUInt32 length.toUInt32 := by
  unfold length32
  split
  · rename_i fits
    simp [fits]
  · rename_i overlong
    simp [overlong]

/-- A growing buffer takes exactly the emissions that write something, and holds what they
write. -/
theorem toGrowing_eq_ok_iff {emission : Emission} {bytes : Bytes} :
    emission.toGrowing = ⟨bytes, .ok ()⟩ ↔ emission.Writes bytes := by
  unfold toGrowing Writes
  by_cases fits : emission.all Piece.fits = true
  · have whole : emission.takeWhile Piece.fits = emission :=
      List.takeWhile_eq_self_iff.mpr (List.all_eq_true.mp fits)
    simp only [fits, whole, if_true, Written.mk.injEq, and_true]
    exact ⟨fun same => ⟨List.all_eq_true.mp fits, same.symm⟩, fun wrote => wrote.2.symm⟩
  · rw [if_neg fits]
    simp only [Written.mk.injEq, reduceCtorEq, and_false, false_iff, not_and]
    intro all
    exact absurd (List.all_eq_true.mpr all) fits

end Emission

/-! ## What a decoder reads -/

namespace Decoder

variable {α β : Type}

theorem bind_eq_ok_iff {decoder : Decoder α} {next : α → Decoder β} {input rest : Bytes}
    {value : β} :
    (decoder >>= next) input = .ok value rest ↔
      ∃ first middle, decoder input = .ok first middle ∧ next first middle = .ok value rest := by
  simp only [bind, EStateM.bind]
  cases decoder input with
  | ok first middle =>
      constructor
      · intro decoded
        exact ⟨first, middle, rfl, decoded⟩
      · rintro ⟨_, _, same, decoded⟩
        cases same
        exact decoded
  | error error middle => simp

theorem pure_eq_ok_iff {value result : α} {input rest : Bytes} :
    (pure value : Decoder α) input = .ok result rest ↔ value = result ∧ input = rest := by
  simp [pure, EStateM.pure]

theorem throw_ne_ok {error : DecodeError} {result : α} {input rest : Bytes} :
    (throw error : Decoder α) input ≠ .ok result rest := by
  intro impossible
  cases impossible

theorem runOut_ne_ok {input rest : Bytes} {result : α} :
    (runOut : Decoder α) input ≠ .ok result rest := by
  intro impossible
  cases impossible

theorem byte_eq_ok_iff {input rest : Bytes} {a : UInt8} :
    byte input = .ok a rest ↔ input = a :: rest := by
  cases input with
  | nil => simp [byte, runOut_ne_ok]
  | cons first input => simp [byte]

theorem word16_eq_ok_iff {input rest : Bytes} {n : UInt16} :
    word16 input = .ok n rest ↔ input = Bytes.ofUInt16 n ++ rest := by
  constructor
  · intro decoded
    match input, decoded with
    | [], decoded => cases decoded
    | [_], decoded => cases decoded
    | a :: b :: input, decoded =>
        cases decoded
        rw [Bytes.ofUInt16_word16]
        rfl
  · rintro rfl
    exact word16_ofUInt16 n rest

theorem word32_eq_ok_iff {input rest : Bytes} {n : UInt32} :
    word32 input = .ok n rest ↔ input = Bytes.ofUInt32 n ++ rest := by
  constructor
  · intro decoded
    simp only [word32, bind_eq_ok_iff, word16_eq_ok_iff, pure_eq_ok_iff] at decoded
    obtain ⟨upper, _, rfl, lower, _, rfl, rfl, rfl⟩ := decoded
    rw [Bytes.ofUInt32_word32, List.append_assoc]
  · rintro rfl
    exact word32_ofUInt32 n rest

theorem word64_eq_ok_iff {input rest : Bytes} {n : UInt64} :
    word64 input = .ok n rest ↔ input = Bytes.ofUInt64 n ++ rest := by
  constructor
  · intro decoded
    simp only [word64, bind_eq_ok_iff, word32_eq_ok_iff, pure_eq_ok_iff] at decoded
    obtain ⟨upper, _, rfl, lower, _, rfl, rfl, rfl⟩ := decoded
    rw [Bytes.ofUInt64_word64, List.append_assoc]
  · rintro rfl
    exact word64_ofUInt64 n rest

theorem take_eq_ok_iff {length : Nat} {input front rest : Bytes} :
    take length input = .ok front rest ↔ front.length = length ∧ input = front ++ rest := by
  constructor
  · intro decoded
    simp only [take, List.splitAt_eq] at decoded
    split at decoded
    · rename_i enough
      cases decoded
      exact ⟨enough, (List.take_append_drop length input).symm⟩
    · exact absurd decoded runOut_ne_ok
  · rintro ⟨rfl, rfl⟩
    exact take_append front rest

/-- The decoder accepts a value exactly on what the emission of the value writes, and leaves the
bytes behind it unread. -/
def Reads (decoder : Decoder α) (emission : α → Emission) : Prop :=
  ∀ ⦃input rest : Bytes⦄ ⦃value : α⦄, decoder input = .ok value rest ↔
    ∃ bytes, (emission value).Writes bytes ∧ input = bytes ++ rest

theorem Reads.eq_ok_iff {decoder : Decoder α} {emission : α → Emission}
    (reads : decoder.Reads emission) {input rest : Bytes} {value : α} :
    decoder input = .ok value rest ↔
      ∃ bytes, (emission value).Writes bytes ∧ input = bytes ++ rest :=
  @reads input rest value

theorem word16_reads : word16.Reads Emission.word16 := by
  intro input rest n
  simp [word16_eq_ok_iff, Emission.writes_word16]

private theorem repeatOnto_eq_ok_iff {item : Decoder α} {emission : α → Emission}
    (reads : item.Reads emission) {count : Nat} {before items : List α} {input rest : Bytes} :
    repeatOnto item count before input = .ok items rest ↔
      ∃ values bytes, items = before.reverse ++ values ∧ values.length = count ∧
        Emission.Writes (values.flatMap emission) bytes ∧ input = bytes ++ rest := by
  induction count generalizing before input with
  | zero =>
      simp only [repeatOnto, EStateM.Result.ok.injEq, List.length_eq_zero_iff]
      constructor
      · rintro ⟨rfl, rfl⟩
        exact ⟨[], [], by simp⟩
      · rintro ⟨_, _, rfl, rfl, wrote, rfl⟩
        rw [List.flatMap_nil, Emission.writes_nil] at wrote
        simp [wrote]
  | succ count ih =>
      constructor
      · intro decoded
        simp only [repeatOnto] at decoded
        cases first : item input with
        | error error middle => simp [first] at decoded
        | ok value middle =>
            rw [first] at decoded
            obtain ⟨front, wroteFront, rfl⟩ := reads.mp first
            obtain ⟨values, back, rfl, rfl, wroteBack, rfl⟩ := ih.mp decoded
            exact ⟨value :: values, front ++ back, by simp, rfl, wroteFront.append wroteBack,
              by simp⟩
      · rintro ⟨values, _, rfl, lengthEq, wrote, rfl⟩
        obtain ⟨value, values, rfl⟩ := List.exists_cons_of_length_eq_add_one lengthEq
        obtain ⟨front, back, wroteFront, wroteBack, rfl⟩ := Emission.writes_append.mp wrote
        have first : item (front ++ back ++ rest) = .ok value (back ++ rest) :=
          reads.mpr ⟨front, wroteFront, List.append_assoc ..⟩
        simp only [repeatOnto, first]
        exact ih.mpr ⟨values, back, by simp, Nat.succ.inj lengthEq, wroteBack, rfl⟩

/-- A table is read exactly as it is written if its items are. -/
theorem Reads.table {item : Decoder α} {emission : α → Emission} (reads : item.Reads emission) :
    (Decoder.table item).Reads (Emission.table emission) := by
  intro input rest items
  simp only [Decoder.table, bind_eq_ok_iff, word16_eq_ok_iff, repeatOnto_eq_ok_iff reads,
    List.reverse_nil, List.nil_append, Emission.table, Emission.writes_append,
    Emission.writes_length16]
  constructor
  · rintro ⟨count, _, rfl, values, bytes, rfl, lengthEq, wrote, rfl⟩
    have count_eq : items.length.toUInt16 = count := by
      rw [lengthEq]
      exact UInt16.ofNat_toNat
    refine ⟨_, ⟨_, bytes, ⟨?_, rfl⟩, wrote, rfl⟩, ?_⟩
    · rw [lengthEq]
      exact count.toNat_lt
    · rw [count_eq, List.append_assoc]
  · rintro ⟨_, ⟨_, bytes, ⟨small, rfl⟩, wrote, rfl⟩, rfl⟩
    refine ⟨items.length.toUInt16, bytes ++ rest, List.append_assoc .., items, bytes, rfl, ?_,
      wrote, rfl⟩
    exact (UInt16.toNat_ofNat_of_lt' small).symm

end Decoder

end ClassFormat

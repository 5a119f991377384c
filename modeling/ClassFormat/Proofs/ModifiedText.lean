import ClassFormat.Proofs.TextScanning
import ClassFormat.Text.Modified
import Mathlib.Algebra.GroupWithZero.Nat

/-!
# Texts in modified UTF-8

The format of modified UTF-8 is told by its bits (`Modified.charBytes`): a 16-bit unit takes three
bytes with four, six and six of its bits, and a character above U+FFFF takes the two units of its
surrogates.

A stored string is read as plain UTF-8 first and as modified UTF-8 otherwise.  The two encodings
agree on every byte string that belongs to both, so the order does not matter, and a text can be
had exactly from its bytes in one of the two.
-/

namespace ClassFormat.Text.Modified

/-! ## The format -/

/-- The three bytes of a 16-bit unit. -/
def unitBytes (unit : BitVec 16) : Bytes :=
  [⟨0b1110#4 ++ unit.extractLsb' 12 4⟩, ⟨0b10#2 ++ unit.extractLsb' 6 6⟩,
    ⟨0b10#2 ++ unit.extractLsb' 0 6⟩]

/-- The number of a character above U+FFFF, counted from there. -/
def supplement (c : Char) : BitVec 20 :=
  BitVec.ofNat 20 (c.toNat - 0x10000)

/-- The bytes of a character: those of UTF-8, if it is neither null nor above U+FFFF. -/
def charBytes (c : Char) : Bytes :=
  if c = '\x00' then [0xC0, 0x80]
  else if c.toNat ≤ 0xFFFF then String.utf8EncodeChar c
  else
    unitBytes (0b110110#6 ++ (supplement c).extractLsb' 10 10) ++
      unitBytes (0b110111#6 ++ (supplement c).extractLsb' 0 10)

/-- Bits behind a mark. -/
theorem toNat_append_extract {m n : Nat} (mark : BitVec m) (bits : BitVec n) (start length : Nat) :
    (mark ++ bits.extractLsb' start length).toNat =
      mark.toNat * 2 ^ length + bits.toNat / 2 ^ start % 2 ^ length := by
  rw [BitVec.toNat_append, ← Nat.shiftLeft_add_eq_or_of_lt (BitVec.isLt _), Nat.shiftLeft_eq,
    BitVec.extractLsb'_toNat, Nat.shiftRight_eq_div_pow]

theorem encodeThree_eq (unit : BitVec 16) : encodeThree unit.toNat = unitBytes unit := by
  have bound := unit.isLt
  have lead := toNat_append_extract 0b1110#4 unit 12 4
  have second := toNat_append_extract 0b10#2 unit 6 6
  have third := toNat_append_extract 0b10#2 unit 0 6
  simp only [BitVec.reduceToNat] at lead second third
  rw [encodeThree, unitBytes, ← eq_toUInt8 _ (lead.trans (by omega)),
    ← eq_toUInt8 _ (second.trans (by omega)), ← eq_toUInt8 _ (third.trans (by omega))]

/-- A character has the bytes that the format gives it. -/
theorem encodeChar_eq (c : Char) : encodeChar c = charBytes c := by
  have valid := toNat_char c
  by_cases null : c = '\x00'
  · subst null
    rfl
  have nonnull : c.toNat ≠ 0 := fun zero => null (Char.toNat_inj.mp zero)
  unfold encodeChar charBytes
  by_cases below : c.toNat < 0x10000
  · rw [if_neg nonnull, if_pos below, if_neg null, if_pos (by omega), Utf8.encodeChar_eq]
  have number : (supplement c).toNat = c.toNat - 0x10000 := by
    rw [supplement, BitVec.toNat_ofNat, Nat.mod_eq_of_lt (by omega)]
  have upper : (0b110110#6 ++ (supplement c).extractLsb' 10 10).toNat =
      0xD800 + (c.toNat - 0x10000) / 0x400 := by
    rw [toNat_append_extract, number]
    simp only [BitVec.reduceToNat]
    omega
  have lower : (0b110111#6 ++ (supplement c).extractLsb' 0 10).toNat =
      0xDC00 + (c.toNat - 0x10000) % 0x400 := by
    rw [toNat_append_extract, number]
    simp only [BitVec.reduceToNat]
    omega
  rw [if_neg nonnull, if_neg below, if_neg null, if_neg (by omega), ← upper, ← lower]
  rw [encodeThree_eq, encodeThree_eq]

/-- The bytes of a text. -/
def textBytes (text : String) : Bytes :=
  text.toList.flatMap charBytes

/-- A text has the bytes that the format gives it. -/
theorem encode_eq (text : String) : encode text = textBytes text := by
  rw [encode, funext encodeChar_eq, textBytes]

/-! ## Well-formed sequences -/

/-- The well-formed sequences and their characters. -/
inductive Sequence : Bytes → Char → Prop where
  | null : Sequence [0xC0, 0x80] '\x00'
  | short {bytes : Bytes} {c : Char} (sequence : Utf8.Sequence bytes c) (nonnull : c.toNat ≠ 0)
      (below : c.toNat < 0x10000) : Sequence bytes c
  | pair {b c e f : UInt8} (second : within 0xA0 0xAF b = true) (third : isContinuation c = true)
      (fifth : within 0xB0 0xBF e = true) (sixth : isContinuation f = true) :
      Sequence [0xED, b, c, 0xED, e, f] (ofPair (threeValue 0xED b c) (threeValue 0xED e f))

theorem Sequence.ne_nil {bytes : Bytes} {c : Char} (sequence : Sequence bytes c) : bytes ≠ [] := by
  cases sequence with
  | short sequence => exact sequence.ne_nil
  | null | pair => exact List.cons_ne_nil _ _

theorem encodeThree_threeValue {a b c : UInt8} (lead : within 0xE0 0xEF a = true)
    (second : isContinuation b = true) (third : isContinuation c = true) :
    encodeThree (threeValue a b c) = [a, b, c] := by
  rw [within_iff] at lead
  rw [isContinuation_iff] at second third
  rw [encodeThree, threeValue, ← eq_toUInt8 a (by omega), ← eq_toUInt8 b (by omega),
    ← eq_toUInt8 c (by omega)]

theorem eq_encodeChar_of_sequence {bytes : Bytes} {c : Char} (sequence : Sequence bytes c) :
    bytes = encodeChar c := by
  cases sequence with
  | null => rfl
  | short sequence nonnull below =>
      rw [encodeChar, if_neg nonnull, if_pos below]
      exact Utf8.eq_encodeChar_of_sequence sequence
  | @pair b c e f second third fifth sixth =>
      rw [within_iff] at second fifth
      have thirdBounds := isContinuation_iff.mp third
      have sixthBounds := isContinuation_iff.mp sixth
      have upper : threeValue 0xED b c = 0xD000 + b.toNat % 0x40 * 0x40 + c.toNat % 0x40 := rfl
      have lower : threeValue 0xED e f = 0xD000 + e.toNat % 0x40 * 0x40 + f.toNat % 0x40 := rfl
      have number := toNat_ofNat (n := 0x10000 + (threeValue 0xED b c - 0xD800) * 0x400 +
        (threeValue 0xED e f - 0xDC00)) (by omega)
      have upperAgain : 0xD800 + (0x10000 + (threeValue 0xED b c - 0xD800) * 0x400 +
          (threeValue 0xED e f - 0xDC00) - 0x10000) / 0x400 = threeValue 0xED b c := by omega
      have lowerAgain : 0xDC00 + (0x10000 + (threeValue 0xED b c - 0xD800) * 0x400 +
          (threeValue 0xED e f - 0xDC00) - 0x10000) % 0x400 = threeValue 0xED e f := by omega
      rw [encodeChar, ofPair, number, if_neg (by omega), if_neg (by omega), upperAgain, lowerAgain,
        encodeThree_threeValue rfl (isContinuation_iff.mpr (by omega)) third,
        encodeThree_threeValue rfl (isContinuation_iff.mpr (by omega)) sixth]
      rfl

/-- The three bytes of a surrogate. -/
theorem exists_encodeThree_surrogate {n : Nat} (low : 0xD800 ≤ n) (high : n < 0xE000) :
    ∃ b c, encodeThree n = [0xED, b, c] ∧ b.toNat = 0x80 + n / 0x40 % 0x40 ∧
      isContinuation c = true ∧ threeValue 0xED b c = n := by
  have second := toNat_toUInt8 (n := 0x80 + n / 0x40 % 0x40) (by omega)
  have third := toNat_toUInt8 (n := 0x80 + n % 0x40) (by omega)
  have lead : 0xE0 + n / 0x1000 = 0xED := by omega
  refine ⟨_, (0x80 + n % 0x40).toUInt8, ?_, second, isContinuation_iff.mpr (by omega), ?_⟩
  · rw [encodeThree, lead]
    rfl
  · have leadBits : (0xED : UInt8).toNat % 0x10 = 0xD := rfl
    rw [threeValue, second, third, leadBits]
    omega

theorem sequence_encodeChar (c : Char) : Sequence (encodeChar c) c := by
  have valid := toNat_char c
  by_cases null : c.toNat = 0
  · obtain rfl : c = '\x00' := Char.toNat_inj.mp null
    exact .null
  by_cases below : c.toNat < 0x10000
  · rw [encodeChar, if_neg null, if_pos below]
    exact .short (Utf8.sequence_encodeChar c) null below
  · rw [encodeChar, if_neg null, if_neg below]
    rcases exists_encodeThree_surrogate (n := 0xD800 + (c.toNat - 0x10000) / 0x400) (by omega)
      (by omega) with ⟨b₁, c₁, upper, second, third, upperValue⟩
    rcases exists_encodeThree_surrogate (n := 0xDC00 + (c.toNat - 0x10000) % 0x400) (by omega)
      (by omega) with ⟨b₂, c₂, lower, fifth, sixth, lowerValue⟩
    have sequence : Sequence [0xED, b₁, c₁, 0xED, b₂, c₂] _ :=
      .pair (within_iff.mpr (by omega)) third (within_iff.mpr (by omega)) sixth
    rw [ofPair, upperValue, lowerValue, eq_ofNat (c := c) (by omega)] at sequence
    rw [upper, lower]
    exact sequence

theorem exists_sequence_of_scan {lead : UInt8} {rest left : Bytes} {c : Char}
    (taken : scan lead rest = (some c, left)) :
    ∃ bytes, Sequence bytes c ∧ lead :: rest = bytes ++ left := by
  unfold scan at taken
  split at taken
  · cases taken
  rename_i notNull
  split at taken
  · rename_i ascii
    cases taken
    have nonnull : lead.toNat ≠ 0 := fun zero => notNull (UInt8.toNat_inj.mp zero)
    have number := toNat_ofNat (n := lead.toNat) (by omega)
    exact ⟨_, .short (.one ascii) (by omega) (by omega), rfl⟩
  split at taken
  · cases taken
  split at taken
  · rename_i isNull
    cases taken
    simp only [Bool.and_eq_true, decide_eq_true_eq] at isNull
    rcases isNull with ⟨rfl, rfl⟩
    exact ⟨_, .null, rfl⟩
  split at taken
  · rename_i b _ _ ranges
    cases taken
    rw [Bool.and_eq_true] at ranges
    have first := within_iff.mp ranges.1
    have second := isContinuation_iff.mp ranges.2
    have number := toNat_ofNat (n := lead.toNat % 0x20 * 0x40 + b.toNat % 0x40) (by omega)
    exact ⟨_, .short (.two ranges.1 ranges.2) (by rw [ofTwo]; omega) (by rw [ofTwo]; omega), rfl⟩
  split at taken
  · cases taken
  split at taken
  · rename_i b _ _ _ c _ ranges
    cases taken
    rw [Bool.and_eq_true] at ranges
    have second := Utf8.isSecondOfThree_iff.mp ranges.1
    have third := isContinuation_iff.mp ranges.2
    have value : threeValue lead b c =
      lead.toNat % 0x10 * 0x1000 + b.toNat % 0x40 * 0x40 + c.toNat % 0x40 := rfl
    have number := toNat_ofNat (n := threeValue lead b c) (by omega)
    exact ⟨_, .short (.three ranges.1 ranges.2) (by omega) (by omega), rfl⟩
  split at taken
  · rename_i isUpper
    simp only [Bool.and_eq_true, decide_eq_true_eq] at isUpper
    rcases isUpper with ⟨⟨rfl, second⟩, third⟩
    unfold scanLower at taken
    split at taken
    · split at taken
      · rename_i isLower
        simp only [Prod.mk.injEq, Option.some.injEq] at taken
        rcases taken with ⟨rfl, rfl⟩
        simp only [Bool.and_eq_true, decide_eq_true_eq] at isLower
        rcases isLower with ⟨⟨rfl, fifth⟩, sixth⟩
        exact ⟨_, .pair second third fifth sixth, rfl⟩
      · cases taken
    · cases taken
  · cases taken

/-- A byte that starts a character of two or three bytes is neither ASCII nor starts a null. -/
theorem lead_of_le {lead : UInt8} (many : 0xC2 ≤ lead.toNat) :
    lead ≠ 0 ∧ ¬ lead.toNat < 0x80 ∧ lead ≠ 0xC0 := by
  refine ⟨?_, by omega, ?_⟩
  · rintro rfl
    exact absurd many (by decide)
  · rintro rfl
    exact absurd many (by decide)

theorem scan_short {bytes : Bytes} {c : Char} (sequence : Utf8.Sequence bytes c)
    (nonnull : c.toNat ≠ 0) (below : c.toNat < 0x10000) {lead : UInt8} {rest left : Bytes}
    (split : lead :: rest = bytes ++ left) : scan lead rest = (some c, left) := by
  cases sequence with
  | one ascii =>
      cases split
      have notNull : lead ≠ 0 := by
        rintro rfl
        exact nonnull rfl
      simp [scan, notNull, ascii]
  | two first second =>
      cases split
      rcases lead_of_le (within_iff.mp first).1 with ⟨notNull, notAscii, notC0⟩
      simp [scan, notNull, notAscii, notC0, first, second]
  | three second third =>
      cases split
      have bounds := Utf8.isSecondOfThree_iff.mp second
      have many : 0xC2 ≤ lead.toNat := by omega
      rcases lead_of_le many with ⟨notNull, notAscii, notC0⟩
      have notTwo : within 0xC2 0xDF lead = false := within_eq_false (by omega)
      simp [scan, notNull, notAscii, notC0, notTwo, second, third]
  | four second => exact absurd below (Nat.not_lt_of_le (Utf8.le_toNat_ofFour second _ _))

theorem isSecondOfThree_surrogate {b : UInt8} (second : 0xA0 ≤ b.toNat) :
    Utf8.isSecondOfThree 0xED b = false := by
  rw [Bool.eq_false_iff, ne_eq, Utf8.isSecondOfThree_iff]
  intro ranges
  have := ranges.2.2.2.2.2 rfl
  omega

theorem scan_sequence {bytes : Bytes} {c : Char} (sequence : Sequence bytes c) {lead : UInt8}
    {rest left : Bytes} (split : lead :: rest = bytes ++ left) :
    scan lead rest = (some c, left) := by
  cases sequence with
  | null =>
      cases split
      rfl
  | short sequence nonnull below => exact scan_short sequence nonnull below split
  | pair second third fifth sixth =>
      cases split
      have notTwo : within 0xC2 0xDF 0xED = false := rfl
      have notThree := isSecondOfThree_surrogate (within_iff.mp second).1
      simp [scan, scanLower, notTwo, notThree, second, third, fifth, sixth]

/-- The scanner for modified UTF-8 reads modified UTF-8. -/
theorem scan_reads : scan.Reads encodeChar where
  ne_nil c := (sequence_encodeChar c).ne_nil
  eq_some_iff := by
    intro lead rest left c
    constructor
    · intro taken
      rcases exists_sequence_of_scan taken with ⟨_, sequence, split⟩
      rwa [← eq_encodeChar_of_sequence sequence]
    · exact scan_sequence (sequence_encodeChar c)

/-! ## Both encodings -/

/-- Two bytes that start a null or a surrogate as only modified UTF-8 writes it. -/
def IsModified (first second : UInt8) : Prop :=
  first.toNat = 0xC0 ∧ second.toNat = 0x80 ∨ first.toNat = 0xED ∧ 0xA0 ≤ second.toNat

/-- No sequence of plain UTF-8 starts as only modified UTF-8 does. -/
theorem not_isModified_of_sequence {bytes tail left : Bytes} {first second : UInt8} {c : Char}
    (sequence : Utf8.Sequence bytes c) (split : first :: second :: tail = bytes ++ left) :
    ¬ IsModified first second := by
  unfold IsModified
  cases sequence with
  | one ascii =>
      cases split
      omega
  | two lead =>
      cases split
      rw [within_iff] at lead
      omega
  | three ranges =>
      cases split
      rw [Utf8.isSecondOfThree_iff] at ranges
      omega
  | four ranges =>
      cases split
      rw [Utf8.isSecondOfFour_iff] at ranges
      omega

/-- A byte string that starts with a character in both encodings starts with the same character. -/
theorem eq_of_sequences {bytes other left right : Bytes} {c d : Char} (sequence : Sequence bytes c)
    (plain : Utf8.Sequence other d) (same : bytes ++ left = other ++ right) :
    c = d ∧ left = right := by
  cases sequence with
  | null => exact absurd (.inl ⟨rfl, rfl⟩) (not_isModified_of_sequence plain same)
  | short sequence =>
      rw [Utf8.eq_encodeChar_of_sequence sequence, Utf8.eq_encodeChar_of_sequence plain] at same
      exact Utf8.scan_reads.append_cancel same
  | pair second =>
      have isModified : IsModified 0xED _ := .inr ⟨rfl, (within_iff.mp second).1⟩
      exact absurd isModified (not_isModified_of_sequence plain same)

/-- A byte string that is a text in both encodings is the same text. -/
theorem eq_of_flatMap_eq {chars others : List Char}
    (same : chars.flatMap encodeChar = others.flatMap Utf8.encodeChar) : chars = others := by
  induction chars generalizing others with
  | nil => exact (Utf8.scan_reads.flatMap_eq_nil_iff.mp same.symm).symm
  | cons c chars ih =>
      cases others with
      | nil => exact scan_reads.flatMap_eq_nil_iff.mp same
      | cons d others =>
          rcases eq_of_sequences (sequence_encodeChar c) (Utf8.sequence_encodeChar d) same with
            ⟨rfl, rest⟩
          rw [ih rest]

end ClassFormat.Text.Modified

namespace ClassFormat.ModifiedUtf8

open Text

/-- A text can be had exactly from its bytes in modified or in plain UTF-8. -/
theorem toString?_eq_some_iff {bytes : Bytes} {text : String} :
    (ModifiedUtf8.mk bytes).toString? = some text ↔
      bytes = Modified.encode text ∨ bytes = Utf8.encode text := by
  have plain : Utf8.scan.decode? bytes = some text ↔ bytes = Utf8.encode text :=
    Utf8.scan_reads.decode?_eq_some_iff
  have modified : Modified.scan.decode? bytes = some text ↔ bytes = Modified.encode text :=
    Modified.scan_reads.decode?_eq_some_iff
  unfold toString?
  cases found : Utf8.scan.decode? bytes with
  | none =>
      change Modified.scan.decode? bytes = some text ↔ _
      rw [modified]
      constructor
      · exact .inl
      · rintro (bytes_eq | bytes_eq)
        · exact bytes_eq
        · rw [plain.mpr bytes_eq] at found
          cases found
  | some other =>
      change some other = some text ↔ _
      have otherBytes : bytes = Utf8.encode other := Utf8.scan_reads.decode?_eq_some_iff.mp found
      constructor
      · rintro ⟨⟩
        exact .inr otherBytes
      · rintro (bytes_eq | bytes_eq)
        · have same : text.toList = other.toList :=
            Modified.eq_of_flatMap_eq (bytes_eq.symm.trans otherBytes)
          rw [String.toList_inj.mp same]
        · rw [← found, plain.mpr bytes_eq]

theorem toString?_eq_none_iff {bytes : Bytes} :
    (ModifiedUtf8.mk bytes).toString? = none ↔
      ∀ text, bytes ≠ Modified.encode text ∧ bytes ≠ Utf8.encode text := by
  simp only [Option.eq_none_iff_forall_ne_some, ne_eq, toString?_eq_some_iff, not_or]

/-- A text survives being stored. -/
theorem text_ofString (text : String) : (ofString text).text = text := by
  have stored : (ofString text).toString? = some text := toString?_eq_some_iff.mpr (.inl rfl)
  rw [ModifiedUtf8.text, stored]
  rfl

end ClassFormat.ModifiedUtf8

import ClassFormat.Text.Utf8

/-!
# Scanners that accept one encoding

A scanner reads an encoding exactly if it takes a character where the bytes of the character stand,
and only there (`Scanner.Reads`).  Repeating such a scanner gives a text exactly on the bytes of
that text.

The scanner for UTF-8 reads UTF-8 in this sense.  The well-formed sequences stand between the two
sides: the scanner accepts them by their byte ranges, and they are the bytes of characters by
arithmetic (`Utf8.Sequence`).
-/

namespace ClassFormat.Text

namespace Scanner

/-- The scanner takes a character exactly where its bytes stand, and leaves what follows them. -/
structure Reads (scan : Scanner) (encodeChar : Char → Bytes) : Prop where
  ne_nil : ∀ c, encodeChar c ≠ []
  eq_some_iff : ∀ {lead : UInt8} {rest left : Bytes} {c : Char},
    scan lead rest = (some c, left) ↔ lead :: rest = encodeChar c ++ left

theorem segmentsOnto_eq_append (scan : Scanner) (fuel : Nat) (bytes : Bytes)
    (segments : List (Option Char)) :
    scan.segmentsOnto fuel bytes segments =
      segments.reverse ++ scan.segmentsOnto fuel bytes [] := by
  induction fuel generalizing bytes segments with
  | zero => simp [segmentsOnto]
  | succ fuel ih =>
      cases bytes with
      | nil => simp [segmentsOnto]
      | cons lead rest =>
          simp only [segmentsOnto]
          rw [ih _ ((scan lead rest).1 :: segments), ih _ [(scan lead rest).1]]
          simp

theorem segmentsOnto_cons (scan : Scanner) (fuel : Nat) (lead : UInt8) (rest : Bytes) :
    scan.segmentsOnto (fuel + 1) (lead :: rest) [] =
      (scan lead rest).1 :: scan.segmentsOnto fuel (scan lead rest).2 [] := by
  simp only [segmentsOnto]
  rw [segmentsOnto_eq_append]
  rfl

section Reads

variable {scan : Scanner} {encodeChar : Char → Bytes} (reads : scan.Reads encodeChar)
include reads

theorem Reads.flatMap_eq_nil_iff {chars : List Char} :
    chars.flatMap encodeChar = [] ↔ chars = [] := by
  cases chars with
  | nil => simp
  | cons c chars => simp [reads.ne_nil c]

/-- With enough fuel, all segments are characters exactly on the bytes of these characters. -/
theorem Reads.segmentsOnto_eq_iff {fuel : Nat} {bytes : Bytes} {chars : List Char}
    (enough : bytes.length ≤ fuel) :
    scan.segmentsOnto fuel bytes [] = chars.map some ↔ bytes = chars.flatMap encodeChar := by
  -- Every character takes at least one byte, so the fuel lasts as long as there are bytes.
  induction fuel generalizing bytes chars with
  | zero =>
      obtain rfl := List.length_eq_zero_iff.mp (Nat.le_zero.mp enough)
      rw [eq_comm (a := []), reads.flatMap_eq_nil_iff]
      cases chars <;> simp [segmentsOnto]
  | succ fuel ih =>
      cases bytes with
      | nil =>
          rw [eq_comm (a := []), reads.flatMap_eq_nil_iff]
          cases chars <;> simp [segmentsOnto]
      | cons lead rest =>
          rw [segmentsOnto_cons]
          constructor
          · intro segments_eq
            cases chars with
            | nil => cases segments_eq
            | cons c chars =>
                rw [List.map_cons, List.cons.injEq] at segments_eq
                have taken : lead :: rest = encodeChar c ++ (scan lead rest).2 :=
                  reads.eq_some_iff.mp (Prod.ext segments_eq.1 rfl)
                have shorter : (scan lead rest).2.length ≤ fuel := by
                  have lengths := congrArg List.length taken
                  have positive := List.length_pos_iff.mpr (reads.ne_nil c)
                  simp only [List.length_cons, List.length_append] at lengths enough
                  omega
                rw [List.flatMap_cons, ← (ih shorter).mp segments_eq.2]
                exact taken
          · intro bytes_eq
            cases chars with
            | nil => cases bytes_eq
            | cons c chars =>
                have taken : scan lead rest = (some c, chars.flatMap encodeChar) :=
                  reads.eq_some_iff.mpr bytes_eq
                have shorter : (chars.flatMap encodeChar).length ≤ fuel := by
                  have lengths := congrArg List.length bytes_eq
                  have positive := List.length_pos_iff.mpr (reads.ne_nil c)
                  rw [List.flatMap_cons, List.length_cons, List.length_append] at lengths
                  rw [List.length_cons] at enough
                  omega
                rw [taken, (ih shorter).mpr rfl]
                rfl

/-- Byte strings that start with characters start with the same one if they are equal. -/
theorem Reads.append_cancel {first second : Char} {left right : Bytes}
    (same : encodeChar first ++ left = encodeChar second ++ right) :
    first = second ∧ left = right := by
  obtain ⟨lead, rest, split⟩ := List.exists_cons_of_ne_nil (reads.ne_nil first)
  have taken : scan lead (rest ++ left) = (some first, left) :=
    reads.eq_some_iff.mpr (by rw [split]; rfl)
  have takenToo : scan lead (rest ++ left) = (some second, right) :=
    reads.eq_some_iff.mpr (by rw [← same, split]; rfl)
  rw [taken] at takenToo
  cases takenToo
  exact ⟨rfl, rfl⟩

/-- Characters in front of the bytes of a text are the first characters of the text. -/
theorem Reads.exists_of_append {front chars : List Char} {tail : Bytes}
    (same : front.flatMap encodeChar ++ tail = chars.flatMap encodeChar) :
    ∃ back, chars = front ++ back ∧ tail = back.flatMap encodeChar := by
  induction front generalizing chars with
  | nil => exact ⟨chars, rfl, same⟩
  | cons c front ih =>
      cases chars with
      | nil =>
          rw [List.flatMap_cons, List.append_assoc] at same
          exact absurd (List.append_eq_nil_iff.mp same).1 (reads.ne_nil c)
      | cons d chars =>
          rw [List.flatMap_cons, List.append_assoc] at same
          rcases reads.append_cancel same with ⟨rfl, rest⟩
          rcases ih rest with ⟨back, rfl, tail_eq⟩
          exact ⟨back, rfl, tail_eq⟩

end Reads

theorem mapM_id_eq_some_iff {α : Type} {options : List (Option α)} {values : List α} :
    options.mapM id = some values ↔ options = values.map some := by
  induction options generalizing values with
  | nil => cases values <;> simp
  | cons option options ih =>
      cases option with
      | none => cases values <;> simp
      | some value =>
          simp only [List.mapM_cons, id, Option.pure_def, Option.bind_eq_bind, Option.bind_some,
            Option.bind_eq_some_iff, ih]
          constructor
          · rintro ⟨_, rfl, same⟩
            cases same
            rfl
          · intro same
            cases values with
            | nil => cases same
            | cons other values =>
                cases same
                exact ⟨values, rfl, rfl⟩

/-- A text is read exactly from its bytes. -/
theorem Reads.decode?_eq_some_iff {scan : Scanner} {encodeChar : Char → Bytes}
    (reads : scan.Reads encodeChar) {bytes : Bytes} {text : String} :
    scan.decode? bytes = some text ↔ bytes = text.toList.flatMap encodeChar := by
  unfold decode? segments
  rw [Option.map_eq_some_iff, ← reads.segmentsOnto_eq_iff (Nat.le_refl _)]
  constructor
  · rintro ⟨chars, read, rfl⟩
    rw [String.toList_ofList]
    exact mapM_id_eq_some_iff.mp read
  · intro read
    exact ⟨text.toList, mapM_id_eq_some_iff.mpr read, String.ofList_toList⟩

end Scanner

/-! ## Bytes and code points as numbers -/

theorem within_iff {low high : Nat} {byte : UInt8} :
    within low high byte = true ↔ low ≤ byte.toNat ∧ byte.toNat ≤ high := by
  simp [within]

theorem within_eq_false {low high : Nat} {byte : UInt8}
    (outside : byte.toNat < low ∨ high < byte.toNat) : within low high byte = false := by
  rw [Bool.eq_false_iff, ne_eq, within_iff]
  omega

theorem isContinuation_iff {byte : UInt8} :
    isContinuation byte = true ↔ 0x80 ≤ byte.toNat ∧ byte.toNat ≤ 0xBF :=
  within_iff

theorem eq_toUInt8 (byte : UInt8) {n : Nat} (same : byte.toNat = n) : byte = n.toUInt8 := by
  rw [← same]
  exact UInt8.ofNat_toNat.symm

theorem toNat_toUInt8 {n : Nat} (small : n < 0x100) : n.toUInt8.toNat = n :=
  UInt8.toNat_ofNat_of_lt' small

/-- No character is a surrogate or lies above U+10FFFF. -/
theorem toNat_char (c : Char) : c.toNat < 0xD800 ∨ 0xDFFF < c.toNat ∧ c.toNat < 0x110000 :=
  c.valid

theorem toNat_ofNat {n : Nat} (valid : n < 0xD800 ∨ 0xDFFF < n ∧ n < 0x110000) :
    (Char.ofNat n).toNat = n := by
  rw [Char.ofNat, dif_pos valid]
  rfl

theorem eq_ofNat {c : Char} {n : Nat} (same : c.toNat = n) : Char.ofNat n = c := by
  rw [← same]
  exact Char.ofNat_toNat c

namespace Utf8

theorem isSecondOfThree_iff {a b : UInt8} :
    isSecondOfThree a b = true ↔
      0xE0 ≤ a.toNat ∧ a.toNat ≤ 0xEF ∧ 0x80 ≤ b.toNat ∧ b.toNat ≤ 0xBF ∧
        (a.toNat = 0xE0 → 0xA0 ≤ b.toNat) ∧ (a.toNat = 0xED → b.toNat ≤ 0x9F) := by
  unfold isSecondOfThree
  simp only [← UInt8.toNat_inj, UInt8.reduceToNat, Bool.ite_eq_true_distrib, Bool.and_eq_true,
    within_iff, isContinuation_iff]
  split
  · omega
  · split <;> omega

theorem isSecondOfFour_iff {a b : UInt8} :
    isSecondOfFour a b = true ↔
      0xF0 ≤ a.toNat ∧ a.toNat ≤ 0xF4 ∧ 0x80 ≤ b.toNat ∧ b.toNat ≤ 0xBF ∧
        (a.toNat = 0xF0 → 0x90 ≤ b.toNat) ∧ (a.toNat = 0xF4 → b.toNat ≤ 0x8F) := by
  unfold isSecondOfFour
  simp only [← UInt8.toNat_inj, UInt8.reduceToNat, Bool.ite_eq_true_distrib, Bool.and_eq_true,
    within_iff, isContinuation_iff]
  split
  · omega
  · split <;> omega

/-- The well-formed sequences and their characters. -/
inductive Sequence : Bytes → Char → Prop where
  | one {a : UInt8} (ascii : a.toNat < 0x80) : Sequence [a] (Char.ofNat a.toNat)
  | two {a b : UInt8} (lead : within 0xC2 0xDF a = true) (second : isContinuation b = true) :
      Sequence [a, b] (ofTwo a b)
  | three {a b c : UInt8} (second : isSecondOfThree a b = true) (third : isContinuation c = true) :
      Sequence [a, b, c] (Char.ofNat (threeValue a b c))
  | four {a b c d : UInt8} (second : isSecondOfFour a b = true) (third : isContinuation c = true)
      (fourth : isContinuation d = true) : Sequence [a, b, c, d] (ofFour a b c d)

theorem Sequence.ne_nil {bytes : Bytes} {c : Char} (sequence : Sequence bytes c) : bytes ≠ [] := by
  cases sequence <;> exact List.cons_ne_nil _ _

/-- Four bytes are for a character above U+FFFF. -/
theorem le_toNat_ofFour {a b : UInt8} (second : isSecondOfFour a b = true) (c d : UInt8) :
    0x10000 ≤ (ofFour a b c d).toNat := by
  rw [isSecondOfFour_iff] at second
  rw [ofFour, toNat_ofNat (by omega)]
  omega

theorem eq_encodeChar_of_sequence {bytes : Bytes} {c : Char} (sequence : Sequence bytes c) :
    bytes = encodeChar c := by
  cases sequence with
  | @one a ascii =>
      rw [encodeChar, toNat_ofNat (by omega), if_pos ascii, ← eq_toUInt8 a rfl]
  | @two a b lead second =>
      rw [within_iff] at lead
      rw [isContinuation_iff] at second
      rw [encodeChar, ofTwo, toNat_ofNat (by omega), if_neg (by omega), if_pos (by omega),
        ← eq_toUInt8 a (by omega), ← eq_toUInt8 b (by omega)]
  | @three a b c second third =>
      rw [isSecondOfThree_iff] at second
      rw [isContinuation_iff] at third
      rw [encodeChar, threeValue, toNat_ofNat (by omega), if_neg (by omega), if_neg (by omega),
        if_pos (by omega), ← eq_toUInt8 a (by omega),
        ← eq_toUInt8 b (by omega), ← eq_toUInt8 c (by omega)]
  | @four a b c d second third fourth =>
      rw [isSecondOfFour_iff] at second
      rw [isContinuation_iff] at third fourth
      rw [encodeChar, ofFour, toNat_ofNat (by omega), if_neg (by omega), if_neg (by omega),
        if_neg (by omega), ← eq_toUInt8 a (by omega),
        ← eq_toUInt8 b (by omega), ← eq_toUInt8 c (by omega),
        ← eq_toUInt8 d (by omega)]

/-- The bytes of a character are a well-formed sequence, whose length depends on the code point. -/
theorem sequence_encodeChar (c : Char) : Sequence (encodeChar c) c := by
  have valid := toNat_char c
  by_cases ascii : c.toNat < 0x80
  · rw [encodeChar, if_pos ascii]
    have a := toNat_toUInt8 (n := c.toNat) (by omega)
    have sequence : Sequence [c.toNat.toUInt8] _ := .one (by omega)
    rwa [eq_ofNat a.symm] at sequence
  by_cases two : c.toNat < 0x800
  · rw [encodeChar, if_neg ascii, if_pos two]
    have a := toNat_toUInt8 (n := 0xC0 + c.toNat / 0x40) (by omega)
    have b := toNat_toUInt8 (n := 0x80 + c.toNat % 0x40) (by omega)
    have sequence : Sequence [(0xC0 + c.toNat / 0x40).toUInt8, (0x80 + c.toNat % 0x40).toUInt8] _ :=
      .two (within_iff.mpr (by omega)) (isContinuation_iff.mpr (by omega))
    rwa [ofTwo, eq_ofNat (c := c) (by omega)] at sequence
  have b := toNat_toUInt8 (n := 0x80 + c.toNat / 0x40 % 0x40) (by omega)
  have last := toNat_toUInt8 (n := 0x80 + c.toNat % 0x40) (by omega)
  by_cases three : c.toNat < 0x10000
  · rw [encodeChar, if_neg ascii, if_neg two, if_pos three]
    have a := toNat_toUInt8 (n := 0xE0 + c.toNat / 0x1000) (by omega)
    have sequence : Sequence [(0xE0 + c.toNat / 0x1000).toUInt8,
        (0x80 + c.toNat / 0x40 % 0x40).toUInt8, (0x80 + c.toNat % 0x40).toUInt8] _ :=
      .three (isSecondOfThree_iff.mpr (by omega)) (isContinuation_iff.mpr (by omega))
    rwa [threeValue, eq_ofNat (c := c) (by omega)] at sequence
  · rw [encodeChar, if_neg ascii, if_neg two, if_neg three]
    have a := toNat_toUInt8 (n := 0xF0 + c.toNat / 0x40000) (by omega)
    have second := toNat_toUInt8 (n := 0x80 + c.toNat / 0x1000 % 0x40) (by omega)
    have sequence : Sequence [(0xF0 + c.toNat / 0x40000).toUInt8,
        (0x80 + c.toNat / 0x1000 % 0x40).toUInt8, (0x80 + c.toNat / 0x40 % 0x40).toUInt8,
        (0x80 + c.toNat % 0x40).toUInt8] _ :=
      .four (isSecondOfFour_iff.mpr (by omega)) (isContinuation_iff.mpr (by omega))
        (isContinuation_iff.mpr (by omega))
    rwa [ofFour, eq_ofNat (c := c) (by omega)] at sequence

theorem isSecondOfThree_eq_false {a b : UInt8} (four : 0xF0 ≤ a.toNat) :
    isSecondOfThree a b = false := by
  rw [Bool.eq_false_iff, ne_eq, isSecondOfThree_iff]
  omega

theorem exists_sequence_of_scan {lead : UInt8} {rest left : Bytes} {c : Char}
    (taken : scan lead rest = (some c, left)) :
    ∃ bytes, Sequence bytes c ∧ lead :: rest = bytes ++ left := by
  unfold scan at taken
  split at taken
  · rename_i ascii
    cases taken
    exact ⟨_, .one ascii, rfl⟩
  split at taken
  · cases taken
  split at taken
  · rename_i ranges
    cases taken
    rw [Bool.and_eq_true] at ranges
    exact ⟨_, .two ranges.1 ranges.2, rfl⟩
  split at taken
  · rename_i second
    split at taken
    · cases taken
    split at taken
    · rename_i third
      cases taken
      exact ⟨_, .three second third, rfl⟩
    · cases taken
  split at taken
  · rename_i second
    split at taken
    · cases taken
    split at taken
    · rename_i third
      split at taken
      · cases taken
      split at taken
      · rename_i fourth
        cases taken
        exact ⟨_, .four second third fourth, rfl⟩
      · cases taken
    · cases taken
  · cases taken

theorem scan_sequence {bytes : Bytes} {c : Char} (sequence : Sequence bytes c) {lead : UInt8}
    {rest left : Bytes} (split : lead :: rest = bytes ++ left) :
    scan lead rest = (some c, left) := by
  cases sequence with
  | one ascii =>
      cases split
      simp [scan, ascii]
  | two first second =>
      cases split
      have bounds := within_iff.mp first
      have notAscii : ¬ lead.toNat < 0x80 := by omega
      simp [scan, notAscii, first, second]
  | three second third =>
      cases split
      have bounds := isSecondOfThree_iff.mp second
      have notAscii : ¬ lead.toNat < 0x80 := by omega
      have notTwo : within 0xC2 0xDF lead = false := within_eq_false (by omega)
      simp [scan, notAscii, notTwo, second, third]
  | @four _ b _ _ second third fourth =>
      cases split
      have bounds := isSecondOfFour_iff.mp second
      have notAscii : ¬ lead.toNat < 0x80 := by omega
      have notTwo : within 0xC2 0xDF lead = false := within_eq_false (by omega)
      have notThree : isSecondOfThree lead b = false := isSecondOfThree_eq_false (by omega)
      simp [scan, notAscii, notTwo, notThree, second, third, fourth]

/-- The scanner for UTF-8 reads UTF-8. -/
theorem scan_reads : scan.Reads encodeChar where
  ne_nil c := (sequence_encodeChar c).ne_nil
  eq_some_iff := by
    intro lead rest left c
    constructor
    · intro taken
      rcases exists_sequence_of_scan taken with ⟨_, sequence, split⟩
      rwa [← eq_encodeChar_of_sequence sequence]
    · exact scan_sequence (sequence_encodeChar c)

/-- A character has the bytes that the standard library gives it. -/
theorem encodeChar_eq (c : Char) : encodeChar c = String.utf8EncodeChar c := by
  have valid := toNat_char c
  have number : c.val.toNat = c.toNat := rfl
  simp only [encodeChar, String.utf8EncodeChar, number, Nat.toUInt8, ← Nat.lt_add_one_iff,
    Nat.reduceAdd]
  by_cases ascii : c.toNat < 0x80
  · rw [if_pos ascii, if_pos ascii]
  by_cases two : c.toNat < 0x800
  · have lead : 0xC0 + c.toNat / 0x40 = c.toNat / 64 % 32 + 192 := by omega
    rw [if_neg ascii, if_pos two, if_neg ascii, if_pos two, lead, Nat.add_comm 0x80]
  by_cases three : c.toNat < 0x10000
  · have lead : 0xE0 + c.toNat / 0x1000 = c.toNat / 4096 % 16 + 224 := by omega
    rw [if_neg ascii, if_neg two, if_pos three, if_neg ascii, if_neg two, if_pos three, lead,
      Nat.add_comm 0x80, Nat.add_comm 0x80]
  · have lead : 0xF0 + c.toNat / 0x40000 = c.toNat / 262144 % 8 + 240 := by omega
    rw [if_neg ascii, if_neg two, if_neg three, if_neg ascii, if_neg two, if_neg three, lead,
      Nat.add_comm 0x80, Nat.add_comm 0x80, Nat.add_comm 0x80]

/-- A text has the bytes that the standard library gives it. -/
theorem encode_eq (text : String) : encode text = text.toUTF8.data.toList := by
  have library : text.toUTF8 = (text.toList.flatMap String.utf8EncodeChar).toByteArray :=
    String.utf8Encode_toList.symm
  rw [library, List.toList_data_toByteArray, encode, funext encodeChar_eq]

end Utf8

end ClassFormat.Text

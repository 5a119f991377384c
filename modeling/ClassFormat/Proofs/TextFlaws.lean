import ClassFormat.Proofs.ModifiedText
import Mathlib.Data.List.Chain

/-!
# Byte strings that are no text

A byte string that is neither the modified nor the plain UTF-8 of a text has no text.  Among these
are byte strings with an unpaired surrogate, with a character in more bytes than it needs, or with
parts of which each belongs to only one of the two encodings (`Modified.Flaw`).

What rules them out can be seen locally: from the bytes that occur in an encoding, and from pairs
of neighbouring bytes that do not.
-/

namespace ClassFormat.Text

namespace Modified

/-- Two bytes that start a character in more bytes than it needs. -/
def IsOverlong (first second : UInt8) : Prop :=
  first.toNat = 0xC0 ∧ second.toNat ≠ 0x80 ∨ first.toNat = 0xC1 ∨
    first.toNat = 0xE0 ∧ second.toNat < 0xA0 ∨ first.toNat = 0xF0 ∧ second.toNat < 0x90

/-- Byte strings that are no text in either encoding. -/
inductive Flaw : Bytes → Prop where
  /-- Behind a text stands a surrogate that is not an upper one with a lower one behind it. -/
  | surrogate (text : String) {unit : BitVec 16} {rest : Bytes} (low : 0xD800 ≤ unit.toNat)
      (high : unit.toNat < 0xE000)
      (unpaired : ∀ lower : BitVec 16, unit.toNat < 0xDC00 → 0xDC00 ≤ lower.toNat →
        lower.toNat < 0xE000 → ¬ unitBytes lower <+: rest) :
      Flaw (textBytes text ++ (unitBytes unit ++ rest))
  | overlong {bytes : Bytes} {first second : UInt8} (stands : [first, second] <:+: bytes)
      (isOverlong : IsOverlong first second) : Flaw bytes
  /-- Four bytes for a character stand beside what only modified UTF-8 writes. -/
  | mixed {bytes : Bytes} {first second lead : UInt8} (stands : [first, second] <:+: bytes)
      (isModified : IsModified first second) (mem : lead ∈ bytes) (four : 0xF0 ≤ lead.toNat) :
      Flaw bytes
  /-- There is a plain null byte, and the whole is not plain UTF-8. -/
  | null {bytes : Bytes} (mem : 0 ∈ bytes)
      (notPlain : ∀ text : String, bytes ≠ text.toUTF8.data.toList) : Flaw bytes

end Modified

/-! ## Neighbouring bytes -/

/-- Bytes of characters one after the other form a chain if those of each character do and the last
byte of a character may stand before any other. -/
theorem isChain_flatMap {Follows : UInt8 → UInt8 → Prop} {encodeChar : Char → Bytes}
    (each : ∀ c, (encodeChar c).IsChain Follows)
    (joint : ∀ c last, (encodeChar c).getLast? = some last → ∀ next, Follows last next)
    (chars : List Char) : (chars.flatMap encodeChar).IsChain Follows := by
  induction chars with
  | nil => exact .nil
  | cons c chars ih =>
      rw [List.flatMap_cons]
      exact List.isChain_append.mpr ⟨each c, ih, fun last isLast next _ => joint c last isLast next⟩

theorem follows_of_stands {Follows : UInt8 → UInt8 → Prop} {bytes : Bytes} {first second : UInt8}
    (chain : bytes.IsChain Follows) (stands : [first, second] <:+: bytes) :
    Follows first second := by
  rcases stands with ⟨front, back, rfl⟩
  have pair := (List.isChain_append.mp (List.isChain_append.mp chain).1).2.1
  exact List.isChain_pair.mp pair

namespace Utf8

open Modified (IsOverlong IsModified)

theorem Sequence.toNat_getLast {bytes : Bytes} {c : Char} (sequence : Sequence bytes c)
    {last : UInt8} (isLast : bytes.getLast? = some last) : last.toNat < 0xC0 := by
  cases sequence with
  | one ascii =>
      obtain rfl := Option.some.inj isLast
      exact Nat.lt_trans ascii (by decide)
  | two _ continued | three _ continued | four _ _ continued =>
      obtain rfl := Option.some.inj isLast
      exact Nat.lt_of_le_of_lt (isContinuation_iff.mp continued).2 (by decide)

theorem Sequence.isChain {bytes : Bytes} {c : Char} (sequence : Sequence bytes c) :
    bytes.IsChain fun first second => ¬ IsOverlong first second ∧ ¬ IsModified first second := by
  cases sequence with
  | one => exact .singleton _
  | two lead second =>
      rw [within_iff] at lead
      simp only [List.isChain_cons_cons, List.isChain_singleton, and_true, IsOverlong, IsModified]
      omega
  | three second third =>
      rw [isSecondOfThree_iff] at second
      rw [isContinuation_iff] at third
      simp only [List.isChain_cons_cons, List.isChain_singleton, and_true, IsOverlong, IsModified]
      omega
  | four second third fourth =>
      rw [isSecondOfFour_iff] at second
      rw [isContinuation_iff] at third fourth
      simp only [List.isChain_cons_cons, List.isChain_singleton, and_true, IsOverlong, IsModified]
      omega

/-- Plain UTF-8 has no overlong character, no null of two bytes and no surrogate. -/
theorem isChain_encode (text : String) :
    (encode text).IsChain fun first second =>
      ¬ IsOverlong first second ∧ ¬ IsModified first second := by
  refine isChain_flatMap (fun c => (sequence_encodeChar c).isChain) (fun c last isLast next => ?_) _
  have small := (sequence_encodeChar c).toNat_getLast isLast
  unfold IsOverlong IsModified
  omega

end Utf8

namespace Modified

theorem Sequence.toNat_getLast {bytes : Bytes} {c : Char} (sequence : Sequence bytes c)
    {last : UInt8} (isLast : bytes.getLast? = some last) : last.toNat < 0xC0 := by
  cases sequence with
  | null =>
      obtain rfl := Option.some.inj isLast
      decide
  | short sequence => exact sequence.toNat_getLast isLast
  | pair _ _ _ sixth =>
      obtain rfl := Option.some.inj isLast
      exact Nat.lt_of_le_of_lt (isContinuation_iff.mp sixth).2 (by decide)

theorem Sequence.isChain {bytes : Bytes} {c : Char} (sequence : Sequence bytes c) :
    bytes.IsChain fun first second => ¬ IsOverlong first second := by
  cases sequence with
  | null => exact List.isChain_pair.mpr (by unfold IsOverlong; decide)
  | short sequence => exact sequence.isChain.imp fun _ _ => And.left
  | pair second third fifth sixth =>
      rw [within_iff] at second fifth
      rw [isContinuation_iff] at third sixth
      have lead : (0xED : UInt8).toNat = 0xED := rfl
      simp only [List.isChain_cons_cons, List.isChain_singleton, and_true, IsOverlong]
      omega

/-- Modified UTF-8 has no overlong character. -/
theorem isChain_encode (text : String) :
    (encode text).IsChain fun first second => ¬ IsOverlong first second := by
  refine isChain_flatMap (fun c => (sequence_encodeChar c).isChain) (fun c last isLast next => ?_) _
  have small := (sequence_encodeChar c).toNat_getLast isLast
  unfold IsOverlong
  omega

theorem Sequence.toNat_mem {bytes : Bytes} {c : Char} (sequence : Sequence bytes c) :
    ∀ byte ∈ bytes, byte.toNat ≠ 0 ∧ byte.toNat < 0xF0 := by
  cases sequence with
  | null =>
      rw [List.forall_mem_cons, List.forall_mem_singleton]
      decide
  | short sequence nonnull below =>
      cases sequence with
      | @one a ascii =>
          rw [toNat_ofNat (by omega)] at nonnull
          rw [List.forall_mem_singleton]
          omega
      | two lead second =>
          rw [within_iff] at lead
          rw [isContinuation_iff] at second
          rw [List.forall_mem_cons, List.forall_mem_singleton]
          omega
      | three second third =>
          rw [Utf8.isSecondOfThree_iff] at second
          rw [isContinuation_iff] at third
          rw [List.forall_mem_cons, List.forall_mem_cons, List.forall_mem_singleton]
          omega
      | four second => exact absurd below (Nat.not_lt_of_le (Utf8.le_toNat_ofFour second _ _))
  | pair second third fifth sixth =>
      rw [within_iff] at second fifth
      rw [isContinuation_iff] at third sixth
      have lead : (0xED : UInt8).toNat = 0xED := rfl
      iterate 5 rw [List.forall_mem_cons]
      rw [List.forall_mem_singleton]
      omega

/-- Modified UTF-8 has no plain null and no character of four bytes. -/
theorem toNat_of_mem_encode {text : String} {byte : UInt8} (mem : byte ∈ encode text) :
    byte.toNat ≠ 0 ∧ byte.toNat < 0xF0 := by
  rcases List.mem_flatMap.mp mem with ⟨c, _, stands⟩
  exact (sequence_encodeChar c).toNat_mem byte stands

/-! ## Surrogates -/

/-- A sequence that starts with a surrogate is a pair. -/
theorem Sequence.eq_pair {bytes tail left : Bytes} {b : UInt8} {c : Char}
    (sequence : Sequence bytes c) (surrogate : 0xA0 ≤ b.toNat)
    (split : 0xED :: b :: tail = bytes ++ left) :
    b.toNat ≤ 0xAF ∧ ∃ third e f, within 0xB0 0xBF e = true ∧ isContinuation f = true ∧
      tail = third :: 0xED :: e :: f :: left := by
  cases sequence with
  | null => cases split
  | short sequence =>
      exact absurd (.inr ⟨rfl, surrogate⟩) (not_isModified_of_sequence sequence split)
  | pair second third fifth sixth =>
      cases split
      exact ⟨(within_iff.mp second).2, _, _, _, fifth, sixth, rfl⟩

/-- Modified UTF-8 has lower surrogates only behind upper ones, and upper ones only before lower
ones. -/
theorem encode_ne_surrogate {text other : String} {unit : BitVec 16} {rest : Bytes}
    (low : 0xD800 ≤ unit.toNat) (high : unit.toNat < 0xE000)
    (unpaired : ∀ lower : BitVec 16, unit.toNat < 0xDC00 → 0xDC00 ≤ lower.toNat →
      lower.toNat < 0xE000 → ¬ unitBytes lower <+: rest) :
    encode text ++ (unitBytes unit ++ rest) ≠ encode other := by
  intro same
  rcases scan_reads.exists_of_append same with ⟨back, _, tail_eq⟩
  rcases exists_encodeThree_surrogate low high with ⟨b, third, bytes_eq, second, _, value⟩
  rw [encodeThree_eq] at bytes_eq
  rw [bytes_eq] at tail_eq
  cases back with
  | nil => cases tail_eq
  | cons c back =>
      rcases (sequence_encodeChar c).eq_pair (by omega) tail_eq with
        ⟨isUpper, _, e, f, fifth, sixth, rest_eq⟩
      cases rest_eq
      have fifthBounds := within_iff.mp fifth
      have sixthBounds := isContinuation_iff.mp sixth
      have lowerValue : threeValue 0xED e f = 0xD000 + e.toNat % 0x40 * 0x40 + f.toNat % 0x40 := rfl
      have number : (BitVec.ofNat 16 (threeValue 0xED e f)).toNat = threeValue 0xED e f := by
        rw [BitVec.toNat_ofNat, Nat.mod_eq_of_lt (by omega)]
      have lowerBytes : unitBytes (BitVec.ofNat 16 (threeValue 0xED e f)) = [0xED, e, f] := by
        rw [← encodeThree_eq, number]
        exact encodeThree_threeValue rfl (isContinuation_iff.mpr (by omega)) sixth
      refine unpaired (BitVec.ofNat 16 (threeValue 0xED e f)) (by omega) (by omega) (by omega) ?_
      rw [lowerBytes]
      exact ⟨_, rfl⟩

/-- A byte string with a flaw is not the modified UTF-8 of a text. -/
theorem Flaw.ne_encode {bytes : Bytes} (flaw : Flaw bytes) (text : String) :
    bytes ≠ encode text := by
  cases flaw with
  | surrogate before low high unpaired =>
      rw [← encode_eq]
      exact encode_ne_surrogate low high unpaired
  | overlong stands isOverlong =>
      rintro rfl
      exact follows_of_stands (isChain_encode text) stands isOverlong
  | mixed _ _ mem four =>
      rintro rfl
      exact absurd (toNat_of_mem_encode mem).2 (Nat.not_lt_of_le four)
  | null mem =>
      rintro rfl
      exact (toNat_of_mem_encode mem).1 rfl

/-- A byte string with a flaw is not the plain UTF-8 of a text. -/
theorem Flaw.ne_utf8 {bytes : Bytes} (flaw : Flaw bytes) (text : String) :
    bytes ≠ Utf8.encode text := by
  cases flaw with
  | @surrogate before unit rest low high =>
      rcases exists_encodeThree_surrogate low high with ⟨b, c, bytes_eq, second, _⟩
      rw [encodeThree_eq] at bytes_eq
      intro same
      have stands : [0xED, b] <:+: Utf8.encode text :=
        ⟨textBytes before, c :: rest, by rw [← same, bytes_eq]; simp⟩
      have isModified : IsModified 0xED b := .inr ⟨rfl, by omega⟩
      exact (follows_of_stands (Utf8.isChain_encode text) stands).2 isModified
  | overlong stands isOverlong =>
      rintro rfl
      exact (follows_of_stands (Utf8.isChain_encode text) stands).1 isOverlong
  | mixed stands isModified =>
      rintro rfl
      exact (follows_of_stands (Utf8.isChain_encode text) stands).2 isModified
  | null _ notPlain =>
      rw [Utf8.encode_eq]
      exact notPlain text

end Modified

end ClassFormat.Text

namespace ClassFormat.ModifiedUtf8

open Text

/-- A stored text has the bytes of modified UTF-8.  A stored string has a text exactly if its bytes
are the modified or the plain UTF-8 of that text, so every text survives being stored, different
texts are stored differently, and a byte string with a flaw has no text. -/
theorem text_of_bytes :
    (∀ text, (ofString text).bytes = Modified.textBytes text) ∧
      (∀ bytes text, (ModifiedUtf8.mk bytes).toString? = some text ↔
        bytes = Modified.textBytes text ∨ bytes = text.toUTF8.data.toList) ∧
      (∀ text, (ofString text).toString? = some text) ∧
      Function.Injective ofString ∧
      (∀ bytes, (ModifiedUtf8.mk bytes).toString? = none ↔
        ∀ text, bytes ≠ Modified.textBytes text ∧ bytes ≠ text.toUTF8.data.toList) ∧
      (∀ bytes, Modified.Flaw bytes → (ModifiedUtf8.mk bytes).toString? = none) ∧
      ∀ string text, toString? string = some text → string.text = text := by
  have survives : ∀ text, (ofString text).toString? = some text := fun text =>
    toString?_eq_some_iff.mpr (.inl rfl)
  refine ⟨Modified.encode_eq, fun bytes text => ?_, survives, ?_, fun bytes => ?_, ?_, ?_⟩
  · rw [toString?_eq_some_iff, Modified.encode_eq, Utf8.encode_eq]
  · intro first second same
    apply Option.some.inj
    rw [← survives first, same, survives second]
  · simp only [toString?_eq_none_iff, Modified.encode_eq, Utf8.encode_eq]
  · intro bytes flaw
    exact toString?_eq_none_iff.mpr fun text => ⟨flaw.ne_encode text, flaw.ne_utf8 text⟩
  · intro string text found
    rw [ModifiedUtf8.text, found]
    rfl

theorem text_of_bytes_sample :
    let paired : ModifiedUtf8 := ⟨[0x41, 0xC0, 0x80, 0xED, 0xA0, 0xBD, 0xED, 0xB8, 0x80]⟩
    let reversed := Modified.textBytes "" ++
      (Modified.unitBytes 0xDE00#16 ++ Modified.unitBytes 0xD83D#16)
    paired.toString? = some (String.ofList ['A', '\x00', '😀']) ∧
      paired.text = String.ofList ['A', '\x00', '😀'] ∧
      Modified.Flaw reversed ∧ (ModifiedUtf8.mk reversed).toString? = none := by
  rcases text_of_bytes with ⟨_, readable, _, _, _, flawed, agrees⟩
  have stored : [0x41, 0xC0, 0x80, 0xED, 0xA0, 0xBD, 0xED, 0xB8, 0x80] =
      Modified.textBytes (String.ofList ['A', '\x00', '😀']) := by
    rw [Modified.textBytes, String.toList_ofList]
    rfl
  have found := (readable _ _).mpr (.inl stored)
  have flaw : Modified.Flaw (Modified.textBytes "" ++
      (Modified.unitBytes 0xDE00#16 ++ Modified.unitBytes 0xD83D#16)) :=
    .surrogate "" (by decide) (by decide) fun _ isUpper => absurd isUpper (by decide)
  exact ⟨found, agrees _ _ found, flaw, flawed _ flaw⟩

end ClassFormat.ModifiedUtf8

/-!
# Byte strings and big-endian words

Class files store every number with its most significant byte first.  A word is written as its
upper half and then its lower half (`ofUInt16`, `ofUInt32`, `ofUInt64`), and put together again
from the two (`word16`, `word32`, `word64`).
-/

namespace ClassFormat

/-- A string of bytes. -/
abbrev Bytes := List UInt8

namespace Bytes

/-- The two bytes of a 16-bit word. -/
def ofUInt16 (n : UInt16) : Bytes :=
  [(n >>> 8).toUInt8, n.toUInt8]

/-- The four bytes of a 32-bit word. -/
def ofUInt32 (n : UInt32) : Bytes :=
  ofUInt16 (n >>> 16).toUInt16 ++ ofUInt16 n.toUInt16

/-- The eight bytes of a 64-bit word. -/
def ofUInt64 (n : UInt64) : Bytes :=
  ofUInt32 (n >>> 32).toUInt32 ++ ofUInt32 n.toUInt32

/-- The 16-bit word of two bytes. -/
def word16 (upper lower : UInt8) : UInt16 :=
  upper.toUInt16 <<< 8 ||| lower.toUInt16

/-- The 32-bit word of two halves. -/
def word32 (upper lower : UInt16) : UInt32 :=
  upper.toUInt32 <<< 16 ||| lower.toUInt32

/-- The 64-bit word of two halves. -/
def word64 (upper lower : UInt32) : UInt64 :=
  upper.toUInt64 <<< 32 ||| lower.toUInt64

@[simp]
theorem length_ofUInt16 (n : UInt16) : (ofUInt16 n).length = 2 :=
  rfl

@[simp]
theorem length_ofUInt32 (n : UInt32) : (ofUInt32 n).length = 4 :=
  rfl

@[simp]
theorem length_ofUInt64 (n : UInt64) : (ofUInt64 n).length = 8 :=
  rfl

/-- The halves of a word make up the word. -/
@[simp]
theorem word16_halves (n : UInt16) : word16 (n >>> 8).toUInt8 n.toUInt8 = n := by
  apply UInt16.toNat_inj.mp
  have bound := n.toNat_lt
  have upper : (n.toNat >>> (UInt16.toNat 8 % 16) % 2 ^ 8) <<< (UInt16.toNat 8 % 16) % 2 ^ 16 =
      (n.toNat / 2 ^ 8) <<< 8 := by
    simp [Nat.shiftRight_eq_div_pow, Nat.shiftLeft_eq]
    omega
  simp only [word16, UInt16.toNat_or, UInt16.toNat_shiftLeft, UInt8.toNat_toUInt16,
    UInt16.toNat_toUInt8, UInt16.toNat_shiftRight]
  rw [upper, ← Nat.shiftLeft_add_eq_or_of_lt (by omega), Nat.shiftLeft_eq]
  omega

/-- The halves of a word make up the word. -/
@[simp]
theorem word32_halves (n : UInt32) : word32 (n >>> 16).toUInt16 n.toUInt16 = n := by
  apply UInt32.toNat_inj.mp
  have bound := n.toNat_lt
  have upper : (n.toNat >>> (UInt32.toNat 16 % 32) % 2 ^ 16) <<< (UInt32.toNat 16 % 32) % 2 ^ 32 =
      (n.toNat / 2 ^ 16) <<< 16 := by
    simp [Nat.shiftRight_eq_div_pow, Nat.shiftLeft_eq]
    omega
  simp only [word32, UInt32.toNat_or, UInt32.toNat_shiftLeft, UInt16.toNat_toUInt32,
    UInt32.toNat_toUInt16, UInt32.toNat_shiftRight]
  rw [upper, ← Nat.shiftLeft_add_eq_or_of_lt (by omega), Nat.shiftLeft_eq]
  omega

/-- The halves of a word make up the word. -/
@[simp]
theorem word64_halves (n : UInt64) : word64 (n >>> 32).toUInt32 n.toUInt32 = n := by
  apply UInt64.toNat_inj.mp
  have bound := n.toNat_lt
  have upper : (n.toNat >>> (UInt64.toNat 32 % 64) % 2 ^ 32) <<< (UInt64.toNat 32 % 64) % 2 ^ 64 =
      (n.toNat / 2 ^ 32) <<< 32 := by
    simp [Nat.shiftRight_eq_div_pow, Nat.shiftLeft_eq]
    omega
  simp only [word64, UInt64.toNat_or, UInt64.toNat_shiftLeft, UInt32.toNat_toUInt64,
    UInt64.toNat_toUInt32, UInt64.toNat_shiftRight]
  rw [upper, ← Nat.shiftLeft_add_eq_or_of_lt (by omega), Nat.shiftLeft_eq]
  omega

end Bytes

end ClassFormat

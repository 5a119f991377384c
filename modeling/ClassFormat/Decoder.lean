import ClassFormat.Bytes
import ClassFormat.Error

/-!
# Decoders

A decoder reads a value from the front of a byte string.  It returns the bytes it leaves unread,
also when it fails: input that ends too early is used up, and any other failure leaves what
stands behind the offending field.
-/

namespace ClassFormat

/-- Reads a value from the front of a byte string and leaves the rest. -/
abbrev Decoder (α : Type) := EStateM DecodeError Bytes α

namespace Decoder

/-- Refuse input that ends too early.  Nothing is left unread. -/
def runOut {α : Type} : Decoder α :=
  fun _ => .error .unexpectedEnd []

/-- One byte. -/
def byte : Decoder UInt8
  | a :: rest => .ok a rest
  | input => runOut input

/-- A 16-bit word. -/
def word16 : Decoder UInt16
  | a :: b :: rest => .ok (Bytes.word16 a b) rest
  | input => runOut input

/-- A 32-bit word. -/
def word32 : Decoder UInt32 := do
  let upper ← word16
  let lower ← word16
  return Bytes.word32 upper lower

/-- A 64-bit word. -/
def word64 : Decoder UInt64 := do
  let upper ← word32
  let lower ← word32
  return Bytes.word64 upper lower

/-- The next `length` bytes. -/
def take (length : Nat) : Decoder Bytes := fun input =>
  let (front, rest) := input.splitAt length
  if front.length = length then .ok front rest else runOut input

/-- Read `count` items and put them, in order, behind those already read, which stand in
reverse. -/
def repeatOnto {α : Type} (item : Decoder α) : (count : Nat) → List α → Decoder (List α)
  | 0, items, input => .ok items.reverse input
  | count + 1, items, input =>
      match item input with
      | .ok value rest => repeatOnto item count (value :: items) rest
      | .error error rest => .error error rest

/-- Read a table: a 16-bit count and that many items. -/
def table {α : Type} (item : Decoder α) : Decoder (List α) := do
  let count ← word16
  repeatOnto item count.toNat []

/-! ## Reading what was written -/

@[simp]
theorem byte_cons (a : UInt8) (rest : Bytes) : byte (a :: rest) = .ok a rest :=
  rfl

@[simp]
theorem word16_ofUInt16 (n : UInt16) (rest : Bytes) :
    word16 (Bytes.ofUInt16 n ++ rest) = .ok n rest := by
  simp [Bytes.ofUInt16, word16]

@[simp]
theorem word32_ofUInt32 (n : UInt32) (rest : Bytes) :
    word32 (Bytes.ofUInt32 n ++ rest) = .ok n rest := by
  simp [Bytes.ofUInt32, word32, bind, EStateM.bind, pure, EStateM.pure]

@[simp]
theorem word64_ofUInt64 (n : UInt64) (rest : Bytes) :
    word64 (Bytes.ofUInt64 n ++ rest) = .ok n rest := by
  simp [Bytes.ofUInt64, word64, bind, EStateM.bind, pure, EStateM.pure]

@[simp]
theorem take_append (front rest : Bytes) :
    take front.length (front ++ rest) = .ok front rest := by
  simp [take, List.splitAt_eq]

end Decoder

end ClassFormat

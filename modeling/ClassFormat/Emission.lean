import ClassFormat.Bytes
import ClassFormat.Error

/-!
# Emissions

What a structure writes is a list of pieces: runs of bytes, and lengths that do not fit their
field.  The first such length ends the writing with an error.

An emission can go to a buffer that grows (`Emission.toGrowing`) or to one of a fixed size
(`Emission.toFixed`), which takes the runs of bytes one after the other and as much of the last
one as it has room for.
-/

namespace ClassFormat

/-- A step of writing. -/
inductive Piece where
  /-- A run of bytes. -/
  | bytes (run : Bytes)
  /-- A length that does not fit its field. -/
  | overlong
deriving DecidableEq, Repr

namespace Piece

/-- Whether the piece can be written. -/
def fits : Piece → Bool
  | .bytes _ => true
  | .overlong => false

/-- The bytes of a piece. -/
def run : Piece → Bytes
  | .bytes run => run
  | .overlong => []

end Piece

/-- The pieces that a structure writes, in order. -/
abbrev Emission := List Piece

/-- The bytes that arrived, and whether all of them did. -/
structure Written where
  bytes : Bytes
  result : Except EncodeError Unit

namespace Emission

/-- A 16-bit word. -/
def word16 (n : UInt16) : Emission :=
  [.bytes (Bytes.ofUInt16 n)]

/-- A length field of 16 bits. -/
def length16 (length : Nat) : Emission :=
  if length < 0x10000 then word16 length.toUInt16 else [.overlong]

/-- A length field of 32 bits. -/
def length32 (length : Nat) : Emission :=
  if length < 0x100000000 then [.bytes (Bytes.ofUInt32 length.toUInt32)] else [.overlong]

/-- A table: a 16-bit count and the items. -/
def table {α : Type} (item : α → Emission) (items : List α) : Emission :=
  length16 items.length ++ items.flatMap item

/-- Write to a buffer that grows. -/
def toGrowing (emission : Emission) : Written where
  bytes := (emission.takeWhile Piece.fits).flatMap Piece.run
  result := if emission.all Piece.fits then .ok () else .error .lengthOverflow

/-- Write what remains of an emission to a buffer with `room` bytes left.  The runs already
written stand in reverse. -/
def fill (room : Nat) (written : List Bytes) : Emission → Written
  | [] => ⟨written.reverse.flatten, .ok ()⟩
  | .overlong :: _ => ⟨written.reverse.flatten, .error .lengthOverflow⟩
  | .bytes run :: rest =>
      if run.length ≤ room then fill (room - run.length) (run :: written) rest
      else ⟨(run.take room :: written).reverse.flatten, .error .bufferFull⟩

/-- Write to a buffer of `size` bytes. -/
def toFixed (size : Nat) (emission : Emission) : Written :=
  emission.fill size []

end Emission

end ClassFormat

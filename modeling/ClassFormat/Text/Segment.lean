import ClassFormat.Bytes

/-!
# Cutting bytes into characters

An encoding of text is read by a scanner: from the lead byte and what follows it, the scanner
takes one character, or a run of bytes that is none, and leaves the rest.  Repeating it cuts a
byte string into segments.
-/

namespace ClassFormat.Text

/-- Reads one character from the front of a nonempty byte string.  `none` marks bytes that are no
character. -/
abbrev Scanner := (lead : UInt8) → (rest : Bytes) → Option Char × Bytes

/-- Whether a byte lies between two bounds, both included. -/
def within (low high : Nat) (byte : UInt8) : Bool :=
  low ≤ byte.toNat && byte.toNat ≤ high

/-- Whether a byte continues a sequence. -/
def isContinuation : UInt8 → Bool :=
  within 0x80 0xBF

/-- The character of a sequence of two bytes. -/
def ofTwo (a b : UInt8) : Char :=
  Char.ofNat (a.toNat % 0x20 * 0x40 + b.toNat % 0x40)

/-- The code point of a sequence of three bytes. -/
def threeValue (a b c : UInt8) : Nat :=
  a.toNat % 0x10 * 0x1000 + b.toNat % 0x40 * 0x40 + c.toNat % 0x40

/-- The character of a sequence of four bytes. -/
def ofFour (a b c d : UInt8) : Char :=
  Char.ofNat
    (a.toNat % 0x8 * 0x40000 + b.toNat % 0x40 * 0x1000 + c.toNat % 0x40 * 0x40 + d.toNat % 0x40)

namespace Scanner

/-- Scan at most `fuel` segments and put them behind those already scanned, which stand in
reverse. -/
def segmentsOnto (scan : Scanner) :
    (fuel : Nat) → Bytes → List (Option Char) → List (Option Char)
  | fuel + 1, lead :: rest, segments =>
      let (segment, rest) := scan lead rest
      segmentsOnto scan fuel rest (segment :: segments)
  | _, _, segments => segments.reverse

/-- The segments of a byte string, in order.  Every scan takes at least the lead byte, so there
are at most as many segments as bytes. -/
def segments (scan : Scanner) (bytes : Bytes) : List (Option Char) :=
  scan.segmentsOnto bytes.length bytes []

/-- The text of a byte string all of whose segments are characters. -/
def decode? (scan : Scanner) (bytes : Bytes) : Option String :=
  ((scan.segments bytes).mapM id).map String.ofList

/-- The text of a byte string, with a replacement character for every segment that is none. -/
def decodeLossy (scan : Scanner) (bytes : Bytes) : String :=
  String.ofList ((scan.segments bytes).map (·.getD '\uFFFD'))

end Scanner

end ClassFormat.Text

import ClassFormat.Text.Segment

/-!
# UTF-8

The scanner accepts the well-formed sequences and nothing else: no overlong forms, no
surrogates, nothing above U+10FFFF.  A run of bytes that is no character ends before the first
byte that could not continue a well-formed sequence.
-/

namespace ClassFormat.Text.Utf8

/-- Whether `b` can follow the lead byte `a` of a sequence of three bytes. -/
def isSecondOfThree (a b : UInt8) : Bool :=
  if a = 0xE0 then within 0xA0 0xBF b
  else if a = 0xED then within 0x80 0x9F b
  else within 0xE1 0xEF a && isContinuation b

/-- Whether `b` can follow the lead byte `a` of a sequence of four bytes. -/
def isSecondOfFour (a b : UInt8) : Bool :=
  if a = 0xF0 then within 0x90 0xBF b
  else if a = 0xF4 then within 0x80 0x8F b
  else within 0xF1 0xF3 a && isContinuation b

/-- Reads one character. -/
def scan : Scanner := fun a rest =>
  if a.toNat < 0x80 then (some (Char.ofNat a.toNat), rest)
  else
    match rest with
    | [] => (none, [])
    | b :: afterTwo =>
        if within 0xC2 0xDF a && isContinuation b then (some (ofTwo a b), afterTwo)
        else if isSecondOfThree a b then
          match afterTwo with
          | [] => (none, [])
          | c :: afterThree =>
              if isContinuation c then (some (Char.ofNat (threeValue a b c)), afterThree)
              else (none, afterTwo)
        else if isSecondOfFour a b then
          match afterTwo with
          | [] => (none, [])
          | c :: afterThree =>
              if isContinuation c then
                match afterThree with
                | [] => (none, [])
                | d :: afterFour =>
                    if isContinuation d then (some (ofFour a b c d), afterFour)
                    else (none, afterThree)
              else (none, afterTwo)
        else (none, rest)

/-- The bytes of a character. -/
def encodeChar (c : Char) : Bytes :=
  let n := c.toNat
  if n < 0x80 then [n.toUInt8]
  else if n < 0x800 then [(0xC0 + n / 0x40).toUInt8, (0x80 + n % 0x40).toUInt8]
  else if n < 0x10000 then
    [(0xE0 + n / 0x1000).toUInt8, (0x80 + n / 0x40 % 0x40).toUInt8, (0x80 + n % 0x40).toUInt8]
  else
    [(0xF0 + n / 0x40000).toUInt8, (0x80 + n / 0x1000 % 0x40).toUInt8,
      (0x80 + n / 0x40 % 0x40).toUInt8, (0x80 + n % 0x40).toUInt8]

/-- The bytes of a text. -/
def encode (text : String) : Bytes :=
  text.toList.flatMap encodeChar

end ClassFormat.Text.Utf8

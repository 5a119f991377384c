import ClassFormat.Text.Utf8

/-!
# Modified UTF-8

Constant strings are stored in modified UTF-8: the null character is written `C0 80`, and a
character above U+FFFF is written as two surrogates of three bytes each.  All other characters are
written as in UTF-8.

A stored string need not be well formed.  `ModifiedUtf8.toString?` gives its text only if it is,
in modified or in plain UTF-8; `ModifiedUtf8.text` always gives a text.
-/

namespace ClassFormat

namespace Text.Modified

/-- The three bytes of a code point, which may be a surrogate. -/
def encodeThree (n : Nat) : Bytes :=
  [(0xE0 + n / 0x1000).toUInt8, (0x80 + n / 0x40 % 0x40).toUInt8, (0x80 + n % 0x40).toUInt8]

/-- The bytes of a character. -/
def encodeChar (c : Char) : Bytes :=
  let n := c.toNat
  if n = 0 then [0xC0, 0x80]
  else if n < 0x10000 then Utf8.encodeChar c
  else
    encodeThree (0xD800 + (n - 0x10000) / 0x400) ++ encodeThree (0xDC00 + (n - 0x10000) % 0x400)

/-- The bytes of a text. -/
def encode (text : String) : Bytes :=
  text.toList.flatMap encodeChar

/-- The character of an upper and a lower surrogate. -/
def ofPair (upper lower : Nat) : Char :=
  Char.ofNat (0x10000 + (upper - 0xD800) * 0x400 + (lower - 0xDC00))

/-- Reads the lower surrogate that has to follow an upper one. -/
def scanLower (upper : Nat) : Bytes → Option Char × Bytes
  | a :: b :: c :: rest =>
      if a = 0xED && within 0xB0 0xBF b && isContinuation c then
        (some (ofPair upper (threeValue a b c)), rest)
      else (none, a :: b :: c :: rest)
  | rest => (none, rest)

/-- Reads one character.  A plain null byte, a sequence of four bytes and a lone surrogate are
none. -/
def scan : Scanner := fun a rest =>
  if a = 0 then (none, rest)
  else if a.toNat < 0x80 then (some (Char.ofNat a.toNat), rest)
  else
    match rest with
    | [] => (none, [])
    | b :: afterTwo =>
        if a = 0xC0 && b = 0x80 then (some '\x00', afterTwo)
        else if within 0xC2 0xDF a && isContinuation b then (some (ofTwo a b), afterTwo)
        else
          match afterTwo with
          | [] => (none, [])
          | c :: afterThree =>
              if Utf8.isSecondOfThree a b && isContinuation c then
                (some (Char.ofNat (threeValue a b c)), afterThree)
              else if a = 0xED && within 0xA0 0xAF b && isContinuation c then
                scanLower (threeValue a b c) afterThree
              else (none, rest)

end Text.Modified

/-- A string as it is stored in a constant. -/
structure ModifiedUtf8 where
  bytes : Bytes
deriving DecidableEq, Repr

namespace ModifiedUtf8

/-- The stored form of a text. -/
def ofString (text : String) : ModifiedUtf8 :=
  ⟨Text.Modified.encode text⟩

/-- The text of a string that is well formed, as plain or as modified UTF-8. -/
def toString? (string : ModifiedUtf8) : Option String :=
  Text.Utf8.scan.decode? string.bytes <|> Text.Modified.scan.decode? string.bytes

/-- The text of a string.  If it is not well formed it is read as plain UTF-8 with replacement
characters. -/
def text (string : ModifiedUtf8) : String :=
  string.toString?.getD (Text.Utf8.scan.decodeLossy string.bytes)

end ModifiedUtf8

end ClassFormat

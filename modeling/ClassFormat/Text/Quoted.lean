import ClassFormat.Text.Combining
import ClassFormat.Text.Hex
import ClassFormat.Text.Modified
import ClassFormat.Text.Printable

/-!
# Quoted strings

A constant string is displayed between quotes, with every character that could not be told apart
or seen written as an escape.  A string that is not well formed is displayed as its bytes.
-/

namespace ClassFormat

namespace Text

/-- The escape of a code point: `\u` and its hexadecimal digits in braces. -/
def codePointEscape (c : Char) : String :=
  "\\u\x7b" ++ lowerHex 1 c.toNat ++ "\x7d"

/-- How a character is displayed inside a text.  Both quotes and the backslash get a backslash in
front. -/
def escapeChar (c : Char) : String :=
  if c = '\x00' then "\\0"
  else if c = '\t' then "\\t"
  else if c = '\r' then "\\r"
  else if c = '\n' then "\\n"
  else if c = '\x27' || c = '\x22' || c = '\x5C' then String.ofList ['\x5C', c]
  else if isPrintable c then String.singleton c
  else codePointEscape c

/-- How the first character of a text is displayed: a combining character has nothing to combine
with there. -/
def escapeFirst (c : Char) : String :=
  if isCombining c then codePointEscape c else escapeChar c

/-- A text with its characters escaped. -/
def escape (text : String) : String :=
  match text.toList with
  | [] => ""
  | first :: rest => escapeFirst first ++ String.join (rest.map escapeChar)

end Text

/-- A stored string as it is displayed. -/
def ModifiedUtf8.quoted (string : ModifiedUtf8) : String :=
  match string.toString? with
  | some text => "\"" ++ Text.escape text ++ "\""
  | none =>
      "[" ++ " ".intercalate (string.bytes.map fun byte => "0x" ++ Text.upperHex 2 byte.toNat) ++
        "] // invalid modified UTF-8"

end ClassFormat

/-!
# Hexadecimal numerals
-/

namespace ClassFormat.Text

/-- A number in lower-case hexadecimal digits, with zeros in front up to a width. -/
def lowerHex (width n : Nat) : String :=
  String.ofList ((Nat.toDigits 16 n).leftpad width '0')

/-- A number in upper-case hexadecimal digits, with zeros in front up to a width. -/
def upperHex (width n : Nat) : String :=
  String.ofList (((Nat.toDigits 16 n).leftpad width '0').map Char.toUpper)

end ClassFormat.Text

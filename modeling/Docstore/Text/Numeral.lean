/-!
# Numerals

Natural numbers in digits: `padded` and `paddedHex` write them with leading zeros up to a width, as
dates and escapes do, and `numeral` reads decimal digits.
-/

namespace Docstore

/-- `n` in base ten, with leading zeros up to `width` digits. -/
def padded (width n : Nat) : String :=
  String.ofList ((Nat.toDigits 10 n).leftpad width '0')

/-- `n` in base sixteen with lower-case digits, with leading zeros up to `width` digits. -/
def paddedHex (width n : Nat) : String :=
  String.ofList ((Nat.toDigits 16 n).leftpad width '0')

/-- The number that decimal digits stand for. -/
def numeral (digits : List Char) : Nat :=
  digits.foldl (fun n c => 10 * n + (c.toNat - '0'.toNat)) 0

end Docstore

import Docstore.Number.Shortest

/-!
# The text of a number

Two ways of writing a number are in use. Inside JSON text a number has the shortest digits that read
back, keeps `.0` when it is whole, and turns to an exponent when it is very large or very small. In
plain text it has the same digits, never an exponent and never a bare `.0`. Both are one function,
`Binary64.text`, at two values of `NumberStyle`.
-/

namespace Docstore

/-- How the digits of a number are laid out. -/
structure NumberStyle where
  /-- Which of two equally near shortest decimals is written. -/
  tie : Tie
  /-- The least and the greatest place of the point, counted from before the first digit, that is
  written without an exponent; `none` when an exponent is never written. -/
  positional : Option (Int × Int)
  /-- What ends a whole number. -/
  wholeEnd : String
  /-- The text of a NaN. -/
  nan : String
  /-- The texts of plus and of minus infinity. -/
  infinities : String × String

/-- Numbers inside JSON text. JSON has no NaN and no infinity, so a null takes their place. -/
def NumberStyle.json : NumberStyle := ⟨.toEven, some (-4, 16), ".0", "null", ("null", "null")⟩

/-- Numbers in plain text. -/
def NumberStyle.plain : NumberStyle := ⟨.up, none, "", "NaN", ("inf", "-inf")⟩

namespace Decimal

/-- `n` zeros. -/
def zeros (n : Nat) : String := String.ofList (List.replicate n '0')

/-- Digits with a point `place` digits after their start, padded with zeros where it falls outside. -/
def positional (digits : List Char) (place : Int) (wholeEnd : String) : String :=
  if place ≤ 0 then "0." ++ zeros (-place).toNat ++ String.ofList digits
  else if digits.length ≤ place then
    String.ofList digits ++ zeros (place.toNat - digits.length) ++ wholeEnd
  else String.ofList (digits.take place.toNat) ++ "." ++ String.ofList (digits.drop place.toNat)

/-- One digit before the point, the others after it, and a signed exponent behind a mark. -/
def scientific (mark : String) (digits : List Char) (place : Int) : String :=
  let exponent := place - 1
  let tail := digits.drop 1
  String.ofList (digits.take 1)
    ++ (if tail.isEmpty then "" else "." ++ String.ofList tail)
    ++ mark ++ (if exponent < 0 then "-" else "+") ++ toString exponent.natAbs

/-- A positive decimal in a given style. -/
def text (style : NumberStyle) (d : Decimal) : String :=
  let digits := Nat.toDigits 10 d.digits
  let place := digits.length + d.exponent
  match style.positional with
  | none => positional digits place style.wholeEnd
  | some (least, greatest) =>
    if least ≤ place ∧ place ≤ greatest then positional digits place style.wholeEnd
    else scientific "e" digits place

end Decimal

/-- The text of a number in a given style. -/
def Binary64.text (style : NumberStyle) (x : Binary64) : String :=
  let sign := if x.isNegative then "-" else ""
  if x.isNaN then style.nan
  else if ¬ x.isFinite then if x.isNegative then style.infinities.2 else style.infinities.1
  else if x.magnitude = 0 then sign ++ "0" ++ style.wholeEnd
  else sign ++ (Binary64.shortest style.tie x.magnitude).text style

end Docstore

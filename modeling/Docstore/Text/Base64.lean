/-!
# Base64

Bytes as text: each group of three bytes is written as four characters that hold six bits each. A last
group that is cut short is filled up with zero bits, and the characters that it does not reach are
written as `=`.
-/

namespace Docstore.Base64

/-- The character for six bits. -/
def digit (n : Nat) : Char :=
  if n < 26 then Char.ofNat ('A'.toNat + n)
  else if n < 52 then Char.ofNat ('a'.toNat + (n - 26))
  else if n < 62 then Char.ofNat ('0'.toNat + (n - 52))
  else if n = 62 then '+'
  else '/'

/-- The four characters for a group of three bytes. -/
def group (a b c : UInt8) : Char × Char × Char × Char :=
  let n := a.toNat * 65536 + b.toNat * 256 + c.toNat
  (digit (n / 262144), digit (n / 4096 % 64), digit (n / 64 % 64), digit (n % 64))

/-- The characters for bytes. -/
def chars : List UInt8 → List Char
  | [] => []
  | [a] => let (w, x, _, _) := group a 0 0; [w, x, '=', '=']
  | [a, b] => let (w, x, y, _) := group a b 0; [w, x, y, '=']
  | a :: b :: c :: bytes => let (w, x, y, z) := group a b c; w :: x :: y :: z :: chars bytes

/-- The text for bytes. -/
def text (bytes : List UInt8) : String := String.ofList (chars bytes)

end Docstore.Base64

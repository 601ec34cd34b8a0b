import Docstore.Text.Numeral

/-!
# Random identifiers

The identifiers of new documents are version 4 UUIDs: 122 random bits in lower-case hexadecimal
digits, in groups joined by hyphens, with the version and the variant at their fixed places.
-/

namespace Docstore.Uuid

/-- The UUID with the given random bits, of which the lowest 122 count. -/
def text (random : Nat) : String :=
  let node := random % Nat.pow 2 48
  let clock := random / Nat.pow 2 48 % Nat.pow 2 14
  let high := random / Nat.pow 2 62 % Nat.pow 2 12
  let mid := random / Nat.pow 2 74 % Nat.pow 2 16
  let low := random / Nat.pow 2 90 % Nat.pow 2 32
  "-".intercalate [paddedHex 8 low, paddedHex 4 mid, paddedHex 4 (0x4000 + high),
    paddedHex 4 (0x8000 + clock), paddedHex 12 node]

/-- The characters that may stand at a place of a UUID. -/
def allowedAt (i : Nat) (c : Char) : Bool :=
  if i = 8 ∨ i = 13 ∨ i = 18 ∨ i = 23 then c = '-'
  else if i = 14 then c = '4'
  else if i = 19 then "89ab".toList.contains c
  else c.isDigit || ('a' ≤ c && c ≤ 'f')

/-- Whether a text is a version 4 UUID in lower case. -/
def isValid (s : String) : Bool :=
  s.toList.length == 36 && (s.toList.zipIdx.all fun (c, i) => allowedAt i c)

end Docstore.Uuid

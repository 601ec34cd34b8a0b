import Docstore.Json.Basic
import Docstore.Text.Numeral

/-!
# Reading JSON

A strict reader of JSON texts. Nothing but white space may stand around a value, a string holds no
raw control and no half of a surrogate pair, a number that rounds to infinity is refused, and so is
a nesting of 128 arrays or objects. The last of equal names counts.

`Json.readPrefix` reads a value at the start of a text and leaves the rest; `Json.read` reads a
whole text. The reader goes down one nesting level at a time, and inside a level its loops are
bounded by the length of the text.
-/

namespace Docstore.Json

/-- A reader of the start of a text: what it found, and the rest. -/
abbrev Reader (α : Type) := List Char → Option (α × List Char)

/-- The text from its first character that is not white space on. -/
def skipBlanks (cs : List Char) : List Char :=
  cs.dropWhile fun c => c = ' ' ∨ c = '\n' ∨ c = '\r' ∨ c = '\t'

/-! ## Numbers -/

/-- The digits at the start of a text, and the rest. -/
def digitRun (cs : List Char) : List Char × List Char :=
  (cs.takeWhile Char.isDigit, cs.dropWhile Char.isDigit)

/-- The whole part: a zero alone, or digits that do not start with one. -/
def wholePart (cs : List Char) : Option (List Char × List Char) :=
  match cs with
  | '0' :: rest => some (['0'], rest)
  | _ =>
    let (digits, rest) := digitRun cs
    if digits.isEmpty then none else some (digits, rest)

/-- The digits after a point; `none` inside when there is no point. -/
def fractionPart : Reader (Option (List Char))
  | '.' :: cs =>
    let (digits, rest) := digitRun cs
    if digits.isEmpty then none else some (some digits, rest)
  | cs => some (none, cs)

/-- The exponent; `none` inside when there is none. -/
def exponentPart (cs : List Char) : Option (Option Int × List Char) :=
  match cs with
  | [] => some (none, [])
  | e :: rest =>
    if e = 'e' ∨ e = 'E' then
      let (negative, rest) := match rest with
        | '-' :: rest => (true, rest)
        | '+' :: rest => (false, rest)
        | rest => (false, rest)
      let (digits, rest) := digitRun rest
      if digits.isEmpty then none
      else some (some (if negative then -(numeral digits : Int) else numeral digits), rest)
    else some (none, cs)

/-- The value of a literal without point and exponent: an integer of 64 bits, signed or not, if it
fits one. Minus zero is no integer. -/
def integerLiteral (negative : Bool) (n : Nat) : Json :=
  if negative then
    if n = 0 ∨ Nat.pow 2 63 < n then .real (Binary64.ofDecimal true n 0) else .integer (-n)
  else if n < UInt64.size then .integer n
  else .real (Binary64.ofDecimal false n 0)

/-- A number that is not infinite. -/
def finiteNumber? : Json → Option Json
  | .real x => if x.isFinite then some (.real x) else none
  | j => some j

/-- A number after its sign. -/
def number (negative : Bool) : Reader Json := fun cs => do
  let (whole, cs) ← wholePart cs
  let (fraction, cs) ← fractionPart cs
  let (exponent, cs) ← exponentPart cs
  let value := match fraction, exponent with
    | none, none => integerLiteral negative (numeral whole)
    | _, _ =>
      let places := fraction.getD []
      .real (Binary64.ofDecimal negative (numeral (whole ++ places))
        (exponent.getD 0 - (places.length : Int)))
  return (← finiteNumber? value, cs)

/-! ## Strings -/

/-- The value of a hexadecimal digit. -/
def hexDigit? (c : Char) : Option Nat :=
  if c.isDigit then some (c.toNat - '0'.toNat)
  else if 'a' ≤ c ∧ c ≤ 'f' then some (c.toNat - 'a'.toNat + 10)
  else if 'A' ≤ c ∧ c ≤ 'F' then some (c.toNat - 'A'.toNat + 10)
  else none

/-- Four hexadecimal digits. -/
def fourHex : Reader Nat
  | a :: b :: c :: d :: cs => do
    let a ← hexDigit? a
    let b ← hexDigit? b
    let c ← hexDigit? c
    let d ← hexDigit? d
    return (((a * 16 + b) * 16 + c) * 16 + d, cs)
  | _ => none

/-- A character given by its number: one code, or the two codes of a surrogate pair. -/
def numberedChar : Reader Char := fun cs => do
  let (high, cs) ← fourHex cs
  if 0xdc00 ≤ high ∧ high < 0xe000 then none
  else if 0xd800 ≤ high ∧ high < 0xdc00 then
    match cs with
    | '\\' :: 'u' :: cs => do
      let (low, cs) ← fourHex cs
      if 0xdc00 ≤ low ∧ low < 0xe000 then
        return (Char.ofNat (0x10000 + (high - 0xd800) * 0x400 + (low - 0xdc00)), cs)
      else none
    | _ => none
  else return (Char.ofNat high, cs)

/-- The character after a backslash. -/
def escapedChar : Reader Char
  | 'u' :: cs => numberedChar cs
  | '"' :: cs => some ('"', cs)
  | '\\' :: cs => some ('\\', cs)
  | '/' :: cs => some ('/', cs)
  | 'b' :: cs => some ('\x08', cs)
  | 'f' :: cs => some ('\x0c', cs)
  | 'n' :: cs => some ('\n', cs)
  | 'r' :: cs => some ('\r', cs)
  | 't' :: cs => some ('\t', cs)
  | _ => none

/-- A string after its opening quote. `fuel` bounds the number of characters; `found` holds those
read, the last one first. -/
def stringBody : Nat → List Char → Reader String
  | 0, _, _ => none
  | fuel + 1, found, cs =>
    match cs with
    | [] => none
    | '"' :: cs => some (String.ofList found.reverse, cs)
    | '\\' :: cs => do
      let (c, cs) ← escapedChar cs
      stringBody fuel (c :: found) cs
    | c :: cs => if c.toNat < 0x20 then none else stringBody fuel (c :: found) cs

/-- A string after its opening quote. -/
def stringRest : Reader String := fun cs => stringBody (cs.length + 1) [] cs

/-! ## Values -/

/-- The items of an array after the first one or after a comma, up to the closing bracket. -/
def itemsLoop (value : Reader Json) : Nat → List Json → Reader (List Json)
  | 0, _, _ => none
  | fuel + 1, found, cs => do
    let (j, cs) ← value cs
    match skipBlanks cs with
    | ']' :: cs => some ((j :: found).reverse, cs)
    | ',' :: cs => itemsLoop value fuel (j :: found) cs
    | _ => none

/-- One member of an object. -/
def memberAt (value : Reader Json) : Reader (String × Json) := fun cs =>
  match skipBlanks cs with
  | '"' :: cs => do
    let (name, cs) ← stringRest cs
    match skipBlanks cs with
    | ':' :: cs => do
      let (j, cs) ← value cs
      return ((name, j), cs)
    | _ => none
  | _ => none

/-- The members of an object after the opening brace or a comma, up to the closing brace. -/
def membersLoop (value : Reader Json) : Nat → Entries Json → Reader (Entries Json)
  | 0, _, _ => none
  | fuel + 1, found, cs => do
    let (m, cs) ← memberAt value cs
    match skipBlanks cs with
    | '\x7d' :: cs => some ((m :: found).reverse, cs)
    | ',' :: cs => membersLoop value fuel (m :: found) cs
    | _ => none

/-- A value at the start of a text, after white space, with at most `depth` arrays and objects around
any of its parts. -/
def valueWithin : Nat → Reader Json
  | depth, cs =>
    match skipBlanks cs with
    | 'n' :: 'u' :: 'l' :: 'l' :: cs => some (.null, cs)
    | 't' :: 'r' :: 'u' :: 'e' :: cs => some (.boolean true, cs)
    | 'f' :: 'a' :: 'l' :: 's' :: 'e' :: cs => some (.boolean false, cs)
    | '"' :: cs => (stringRest cs).map fun (s, cs) => (.string s, cs)
    | '-' :: cs => number true cs
    | '[' :: cs =>
      match depth with
      | 0 => none
      | depth + 1 =>
        match skipBlanks cs with
        | ']' :: cs => some (.array [], cs)
        | cs => (itemsLoop (valueWithin depth) cs.length [] cs).map fun (js, cs) => (.array js, cs)
    | '\x7b' :: cs =>
      match depth with
      | 0 => none
      | depth + 1 =>
        match skipBlanks cs with
        | '\x7d' :: cs => some (.object [], cs)
        | cs => (membersLoop (valueWithin depth) cs.length [] cs).map fun (ms, cs) => (ofMembers ms, cs)
    | cs => number false cs

/-- The deepest nesting that is read. -/
def deepestNesting : Nat := 127

/-- A value at the start of a text, and the rest. -/
def readPrefix (s : String) : Option (Json × List Char) :=
  valueWithin deepestNesting s.toList

/-- The value that a text consists of. -/
def read (s : String) : Option Json := do
  let (j, rest) ← readPrefix s
  if (skipBlanks rest).isEmpty then some j else none

end Docstore.Json

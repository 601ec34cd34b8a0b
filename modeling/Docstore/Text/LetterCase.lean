import Docstore.Text.LetterCase.Mappings
import Docstore.Text.LetterCase.Properties

/-!
# Letter case

Lower and upper case of texts, by the full Unicode mappings. Two rules go beyond a character by
character mapping: a capital sigma becomes a final sigma at the end of a word, and some characters
become several. On ASCII texts only the letters A to Z and a to z are concerned, and the tables are
not consulted.
-/

namespace Docstore.LetterCase

/-- The character at a code point. -/
def charAt (n : Int) : Char := Char.ofNat n.toNat

/-- The character that a table of shifts gives to `c`, or `c` itself. -/
def shifted (table : List Shift) (c : Char) : Char :=
  match table.find? (·.range.contains c) with
  | some s => charAt (c.toNat + s.distance)
  | none => c

def isAscii (c : Char) : Bool := c.toNat < 128

/-- The lower case of a character outside a word. The capital I with a dot is the one character that
becomes two. -/
def lowerChar (c : Char) : List Char :=
  if isAscii c then [c.toLower]
  else if c = '\u0130' then ['i', '\u0307']
  else [shifted lowerShifts c]

/-- The upper case of a character. -/
def upperChar (c : Char) : List Char :=
  if isAscii c then [c.toUpper]
  else match upperExpansions.lookup c.toNat with
    | some codes => codes.map fun n => charAt (n : Nat)
    | none => [shifted upperShifts c]

def isUppercase (c : Char) : Bool :=
  if isAscii c then c.isUpper else CodeRange.anyContains uppercaseRanges c

def isCased (c : Char) : Bool :=
  if isAscii c then c.isAlpha else CodeRange.anyContains casedRanges c

/-- Characters that the end of a word is looked for beyond. In ASCII these are the apostrophe, the
point, the colon, the circumflex and the grave accent. -/
def isIgnorable (c : Char) : Bool :=
  if isAscii c then [0x27, 0x2e, 0x3a, 0x5e, 0x60].contains c.toNat
  else CodeRange.anyContains ignorableRanges c

/-- Whether a text starts with a cased character, after any that may be ignored. -/
def startsCased (cs : List Char) : Bool :=
  match cs.dropWhile isIgnorable with
  | [] => false
  | c :: _ => isCased c

/-- The lower case of the text `cs` that stands after the text `before`, which is given from its end
to its start. A sigma that ends a word has a form of its own. -/
def lowerAfter (before : List Char) : List Char → List Char
  | [] => []
  | c :: cs =>
    (if c = '\u03a3' then
      [if startsCased before && !startsCased cs then '\u03c2' else '\u03c3']
    else lowerChar c) ++ lowerAfter (c :: before) cs

/-- The lower case of a text. -/
def lower (cs : List Char) : List Char := lowerAfter [] cs

/-- A text with its first character in upper case. -/
def capitalized : List Char → List Char
  | [] => []
  | c :: cs => upperChar c ++ cs

end Docstore.LetterCase

import Docstore.Text.Numeral
import Docstore.Text.Quoted.Escaped

/-!
# Quoted texts

Two ways of putting a text in quotes. `Quoted.json` is the string form of JSON: everything but the
quote, the backslash and the controls stands for itself. `Quoted.shown` is the form used to show a
text in a message: characters that cannot be seen are named by number.
-/

namespace Docstore.Quoted

/-- A character inside a JSON string. -/
def jsonChar (c : Char) : String :=
  match c with
  | '"' => "\\\""
  | '\\' => "\\\\"
  | '\x08' => "\\b"
  | '\x0c' => "\\f"
  | '\n' => "\\n"
  | '\r' => "\\r"
  | '\t' => "\\t"
  | c => if c.toNat < 0x20 then "\\u" ++ paddedHex 4 c.toNat else c.toString

/-- A text as a JSON string. -/
def json (s : String) : String :=
  "\"" ++ String.join (s.toList.map jsonChar) ++ "\""

/-- Whether a shown text names the character by number. -/
def isEscaped (c : Char) : Bool :=
  c.toNat < 0x20 || CodeRange.anyContains escapedRanges c

/-- A character inside a shown text. -/
def shownChar (c : Char) : String :=
  match c with
  | '"' => "\\\""
  | '\\' => "\\\\"
  | '\x00' => "\\0"
  | '\n' => "\\n"
  | '\r' => "\\r"
  | '\t' => "\\t"
  | c => if isEscaped c then "\\u\x7b" ++ paddedHex 0 c.toNat ++ "\x7d" else c.toString

/-- A text as it is shown in a message. -/
def shown (s : String) : String :=
  "\"" ++ String.join (s.toList.map shownChar) ++ "\""

end Docstore.Quoted

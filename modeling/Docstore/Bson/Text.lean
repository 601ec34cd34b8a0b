import Docstore.Bson.Basic
import Docstore.Text.Base64
import Docstore.Text.Numeral
import Docstore.Time.Civil

/-!
# The text of a BSON value

The form in which messages show a BSON value, and in which a stored identifier that is neither a
string nor an object id is read. Strings stand in quotes as they are, and code stands for itself, without
the names that it is to be run with.
-/

namespace Docstore.Bson

/-- A year has four digits; before year zero it has a minus sign, and from five digits on a sign in
every case. -/
def yearText (year : Int) : String :=
  (if year < 0 then "-" else if 9999 < year then "+" else "") ++ padded 4 year.natAbs

/-- Milliseconds as a decimal fraction without trailing zeros, of one digit at least. -/
def fractionText (millis : Nat) : String :=
  if millis % 100 = 0 then toString (millis / 100)
  else if millis % 10 = 0 then padded 2 (millis / 10)
  else padded 3 millis

/-- The date and time of day in UTC of a number of milliseconds since 1970. Years of more than six
digits are not written as dates; the count stands for itself. -/
def dateText (millis : Int) : String :=
  let second := millis / 1000
  let ofDay := (second % 86400).toNat
  let d := CivilDate.ofDayNumber (second / 86400)
  if 999999 < d.year.natAbs then toString millis
  else
    yearText d.year ++ "-" ++ padded 2 d.month ++ "-" ++ padded 2 d.day ++ " "
      ++ toString (ofDay / 3600) ++ ":" ++ padded 2 (ofDay / 60 % 60) ++ ":" ++ padded 2 (ofDay % 60)
      ++ "." ++ fractionText (millis % 1000).toNat ++ " +00:00:00"

/-- A text between quotes, as it is. -/
def quotedAsIs (s : String) : String := "\"" ++ s ++ "\""

/-- A name before a text in parentheses. -/
def applied (name text : String) : String := name ++ "(" ++ text ++ ")"

mutual

/-- The text of a value. -/
def text : Bson → String
  | .null => "null"
  | .boolean b => toString b
  | .int32 n => toString n.toInt
  | .int64 n => toString n.toInt
  | .double x => x.text .plain
  | .string s => quotedAsIs s
  | .date millis => applied "DateTime" (quotedAsIs (dateText millis))
  | .array items => "[" ++ ", ".intercalate (itemTexts items) ++ "]"
  | .document [] => "\x7b\x7d"
  | .document (m :: ms) => "\x7b " ++ ", ".intercalate (memberTexts (m :: ms)) ++ " \x7d"
  | .objectId hex => applied "ObjectId" (quotedAsIs hex)
  | .binary subtype bytes =>
    applied "Binary" ("0x" ++ paddedHex 1 subtype.toNat ++ ", " ++ Base64.text bytes)
  | .decimal128 x => x.text
  | .regularExpression pattern options => "/" ++ pattern ++ "/" ++ options
  | .javaScript code => code
  | .javaScriptWithScope code _ => code
  | .symbol s => applied "Symbol" (quotedAsIs s)
  | .dbPointer collection hex => applied "DbPointer" (collection ++ ", " ++ hex)
  | .undefined => "undefined"
  | .minKey => "MinKey"
  | .maxKey => "MaxKey"
  | .timestamp time increment =>
    applied "Timestamp" (toString time ++ ", " ++ toString increment)

/-- The texts of the items of an array. -/
def itemTexts : List Bson → List String
  | [] => []
  | b :: bs => b.text :: itemTexts bs

/-- The texts of the members of a document. -/
def memberTexts : Entries Bson → List String
  | [] => []
  | (name, b) :: ms => (quotedAsIs name ++ ": " ++ b.text) :: memberTexts ms

end

end Docstore.Bson

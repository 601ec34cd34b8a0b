import Docstore.Text.Blank
import Docstore.Text.LetterCase

/-!
# English plurals

The plural of a word, by tables of irregular and uncountable words and then by endings. Words are
looked up in lower case; the plural keeps a capital at its start. A word that is already a plural of
the tables, or that looks like one, stays as it is. Words outside ASCII only take an `s`, since the
rules for endings are rules of English spelling.
-/

namespace Docstore

/-- The words that do not follow the rules, in lower case. -/
structure EnglishWords where
  /-- Singulars with their plurals, the latest first. -/
  irregular : List (List Char × List Char)
  /-- Words that are their own plural. -/
  uncountable : List (List Char)

namespace EnglishWords

/-- The tables every pluralizer starts with. -/
def standard : EnglishWords where
  irregular := [("person", "people"), ("man", "men"), ("woman", "women"), ("child", "children"),
    ("tooth", "teeth"), ("foot", "feet"), ("mouse", "mice"), ("goose", "geese"), ("ox", "oxen"),
    ("index", "indices"), ("matrix", "matrices"), ("vertex", "vertices"),
    ("criterion", "criteria"), ("datum", "data"), ("medium", "media"), ("analysis", "analyses"),
    ("thesis", "theses"), ("crisis", "crises"), ("cactus", "cacti"), ("quiz", "quizzes"),
    ("hero", "heroes"), ("potato", "potatoes"), ("tomato", "tomatoes"), ("echo", "echoes"),
    ("canvas", "canvases"), ("cafe", "cafes"), ("safe", "safes"), ("gulf", "gulfs"),
    ("chief", "chiefs"), ("roof", "roofs")].map fun e => (e.1.toList, e.2.toList)
  uncountable := ["sheep", "fish", "deer", "moose", "series", "species", "money", "rice",
    "information", "equipment", "news", "data", "feedback", "metadata", "software", "traffic",
    "police"].map String.toList

/-- Adds an irregular word. A singular that is there already gets the new plural. -/
def withIrregular (w : EnglishWords) (singular plural : String) : EnglishWords :=
  let singular := LetterCase.lower singular.toList
  { w with irregular := (singular, LetterCase.lower plural.toList) ::
      w.irregular.filter fun e => e.1 ≠ singular }

/-- Adds an uncountable word. -/
def withUncountable (w : EnglishWords) (word : String) : EnglishWords :=
  { w with uncountable := LetterCase.lower word.toList :: w.uncountable }

end EnglishWords

namespace English

/-- A change of the end of a word: characters that are dropped, and characters that are put there. -/
structure Change where
  drop : Nat
  ending : List Char

def isVowel (c : Char) : Bool := "aeiou".toList.contains c

/-- Whether a word ends in one of some endings. -/
def endsIn (word : List Char) (endings : List String) : Bool :=
  endings.any fun e => e.toList.reverse.isPrefixOf word.reverse

/-- Whether the character before the last one is a vowel. -/
def vowelBeforeLast (word : List Char) : Bool :=
  match word.reverse with
  | _ :: c :: _ => isVowel c
  | _ => false

/-- How a word in lower case makes its plural. -/
def change (word : List Char) : Change :=
  if endsIn word ["ss", "sh", "ch", "x", "z"] then ⟨0, "es".toList⟩
  else if endsIn word ["us", "alias", "gas", "tlas", "tmas", "ris"] then ⟨0, "es".toList⟩
  else if endsIn word ["s"] then ⟨0, []⟩
  else if endsIn word ["y"] && !vowelBeforeLast word then ⟨1, "ies".toList⟩
  else if endsIn word ["fe"] && !endsIn word ["ffe"] then ⟨2, "ves".toList⟩
  else if endsIn word ["lf", "rf", "eaf", "oaf"] then ⟨1, "ves".toList⟩
  else ⟨0, "s".toList⟩

/-- Makes a change at the end of a word. -/
def Change.apply (c : Change) (word : List Char) : List Char :=
  word.take (word.length - c.drop) ++ c.ending

/-- A plural with a capital at its start if the word has one there. -/
def matchCase (word plural : List Char) : List Char :=
  match word with
  | c :: _ => if LetterCase.isUppercase c then LetterCase.capitalized plural else plural
  | [] => plural

/-- The plural of a word without white space around it. -/
def pluralOf (words : EnglishWords) (word : List Char) : List Char :=
  let lower := LetterCase.lower word
  if words.uncountable.contains lower then word
  else match words.irregular.lookup lower with
    | some plural => matchCase word plural
    | none =>
      if words.irregular.any fun e => e.2 == lower then word
      else if word.all LetterCase.isAscii then (change lower).apply word
      else word ++ "s".toList

/-- The plural of a text; white space around it is left out, and an empty text has none. -/
def plural (words : EnglishWords) (s : String) : String :=
  let word := trimmed s.toList
  if word.isEmpty then "" else String.ofList (pluralOf words word)

end English

end Docstore

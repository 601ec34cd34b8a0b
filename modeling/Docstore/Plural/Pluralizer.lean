import Docstore.Plural.English

/-!
# Pluralizers

The ways of naming a collection after a singular name: its English plural, or the name itself.
-/

namespace Docstore

/-- A way of naming a collection. -/
inductive Pluralizer where
  | english (words : EnglishWords)
  | verbatim

/-- The name of the collection for a singular name. White space around the name is left out. -/
def Pluralizer.plural : Pluralizer → String → String
  | .english words, name => English.plural words name
  | .verbatim, name => String.ofList (trimmed name.toList)

end Docstore

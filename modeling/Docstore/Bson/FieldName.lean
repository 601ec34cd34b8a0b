/-!
# Field names in a store

A stored document cannot use every name for a field: a point would lead into a nested document, a
dollar sign would name an operator, and a null character ends a name. `FieldName.escape` writes a
word between underscores in place of each of these, one kind after another, and `FieldName.restore`
goes back in the opposite order. Each pass works from left to right and does not look again at what
it has written.
-/

namespace Docstore.FieldName

/-- Replaces a pattern from left to right, after `skip` characters that an occurrence still covers. -/
def replaceFrom (pattern replacement : List Char) : Nat → List Char → List Char
  | _, [] => []
  | skip + 1, _ :: cs => replaceFrom pattern replacement skip cs
  | 0, c :: cs =>
    if pattern.isPrefixOf (c :: cs) then
      replacement ++ replaceFrom pattern replacement (pattern.length - 1) cs
    else c :: replaceFrom pattern replacement 0 cs

/-- Replaces every occurrence of a pattern, which is not empty. -/
def replaceAll (pattern replacement cs : List Char) : List Char :=
  replaceFrom pattern replacement 0 cs

/-- A character that a stored name cannot hold, and what stands in its place. -/
structure Escape where
  char : Char
  word : List Char

/-- The escapes, in the order in which they are made. -/
def escapes : List Escape :=
  [⟨'.', "__dot__".toList⟩, ⟨'$', "__dollar__".toList⟩, ⟨'\x00', "__null__".toList⟩]

/-- A name with all escapes made. -/
def escapeChars (cs : List Char) : List Char :=
  escapes.foldl (fun cs e => replaceAll [e.char] e.word cs) cs

/-- A name with all escapes undone. -/
def restoreChars (cs : List Char) : List Char :=
  escapes.reverse.foldl (fun cs e => replaceAll e.word [e.char] cs) cs

/-- The name under which a field is stored. -/
def escape (name : String) : String := String.ofList (escapeChars name.toList)

/-- The name of the field that is stored under a name. -/
def restore (stored : String) : String := String.ofList (restoreChars stored.toList)

end Docstore.FieldName

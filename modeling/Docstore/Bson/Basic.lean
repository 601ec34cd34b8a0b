import Docstore.Entries
import Docstore.Number.Decimal128

/-!
# BSON values

The values a stored document is made of. A BSON document keeps its members in the order in which
they were first put in, as `Entries.put` does.
-/

namespace Docstore

/-- A BSON value. Dates count milliseconds since 1970. Object ids are given by their digits, also that of
the document that a pointer leads to. -/
inductive Bson where
  | null
  | boolean (b : Bool)
  | int32 (n : Int32)
  | int64 (n : Int64)
  | double (x : Binary64)
  | string (s : String)
  | date (millis : Int)
  | array (items : List Bson)
  | document (members : List (String × Bson))
  | objectId (hex : String)
  | binary (subtype : UInt8) (bytes : List UInt8)
  | decimal128 (x : Decimal128)
  | regularExpression (pattern options : String)
  | javaScript (code : String)
  | javaScriptWithScope (code : String) (scope : List (String × Bson))
  | symbol (s : String)
  | dbPointer (collection hex : String)
  | undefined
  | minKey
  | maxKey
  | timestamp (time increment : Nat)
deriving Inhabited

/-- Members in the order in which they were first put in. -/
abbrev BsonDocument := Entries Bson

end Docstore

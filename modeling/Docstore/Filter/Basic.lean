import Docstore.Bson.Basic

/-!
# Filters

The filters that a document database takes. A test says something about the value of one stored
field; a filter puts tests on a field, or joins filters. `Filter.toBson` writes a filter in the
operators of the database.
-/

namespace Docstore

/-- A test on the value of one field. -/
inductive Test where
  | equal (b : Bson)
  | notEqual (b : Bson)
  | greater (b : Bson)
  | greaterOrEqual (b : Bson)
  | less (b : Bson)
  | lessOrEqual (b : Bson)
  | isIn (bs : List Bson)
  | notIn (bs : List Bson)
  /-- The field is there. -/
  | present
  /-- The field holds an array. -/
  | isArray
  /-- The field does not hold an array. -/
  | notArray
  /-- The field holds an array with an item equal to a value. -/
  | itemEqual (b : Bson)
  /-- The field holds an array with an item among some values. -/
  | itemIn (bs : List Bson)

/-- A filter on documents. -/
inductive Filter where
  | everything
  /-- The field under a stored name passes all tests. -/
  | field (name : String) (tests : List Test)
  | anyOf (filters : List Filter)
  | allOf (filters : List Filter)
deriving Inhabited

namespace Test

/-- The test for arrays. -/
def arrayType : String × Bson := ("$type", .string "array")

/-- The member that writes a test. -/
def member : Test → String × Bson
  | .equal b => ("$eq", b)
  | .notEqual b => ("$ne", b)
  | .greater b => ("$gt", b)
  | .greaterOrEqual b => ("$gte", b)
  | .less b => ("$lt", b)
  | .lessOrEqual b => ("$lte", b)
  | .isIn bs => ("$in", .array bs)
  | .notIn bs => ("$nin", .array bs)
  | .present => ("$exists", .boolean true)
  | .isArray => arrayType
  | .notArray => ("$not", .document [arrayType])
  | .itemEqual b => ("$elemMatch", .document [("$eq", b)])
  | .itemIn bs => ("$elemMatch", .document [("$in", .array bs)])

end Test

namespace Filter

mutual

/-- The document that writes a filter. -/
def toBson : Filter → BsonDocument
  | .everything => []
  | .field name tests => [(name, .document (tests.map Test.member))]
  | .anyOf filters => [("$or", .array (documents filters))]
  | .allOf filters => [("$and", .array (documents filters))]

/-- The documents that write filters. -/
def documents : List Filter → List Bson
  | [] => []
  | f :: fs => .document f.toBson :: documents fs

end

end Filter

end Docstore

import Docstore.Document

/-!
# Records

Typed access to documents. A record has a fixed list of fields, each of which holds a string, a
count or a date. `RecordShape.read` takes a record out of a JSON object: the members of the object
are read in their order, and only then is a field missed, in the order of the shape. Members that
the shape does not know do not matter.
-/

namespace Docstore

/-- What a field of a record holds. -/
inductive DatumKind where
  | text
  /-- A whole number below `2 ^ 32`. -/
  | count
  | date
deriving DecidableEq, Repr

/-- The value of a field of a record. -/
inductive Datum where
  | text (s : String)
  | count (n : UInt32)
  | date (t : Instant)

namespace Datum

/-- Reads a string. -/
def textOfJson : Json → Except Failure Datum
  | .string s => .ok (.text s)
  | j => .error (.shape (.wrongKind j "a string"))

/-- Reads a count; a number with a point is none, even if it is whole. -/
def countOfJson : Json → Except Failure Datum
  | .integer n =>
    if 0 ≤ n ∧ n.toNat < UInt32.size then .ok (.count (UInt32.ofNat n.toNat))
    else .error (.shape (.wrongValue (.integer n) "u32"))
  | j => .error (.shape (.wrongKind j "u32"))

/-- Reads a date. -/
def dateOfJson (j : Json) : Except Failure Datum :=
  match Value.ofJson j with
  | .ok (.date t) => .ok (.date t)
  | .ok v => .error (.shape (.notDate v.kind.name))
  | .error cause => .error (.unreadable cause)

def ofJson : DatumKind → Json → Except Failure Datum
  | .text => textOfJson
  | .count => countOfJson
  | .date => dateOfJson

def toJson : Datum → Json
  | .text s => .string s
  | .count n => .integer n.toNat
  | .date t => Value.dateJson t

end Datum

/-- The fields of a record. -/
structure RecordShape where
  name : String
  fields : List (String × DatumKind)

namespace RecordShape

/-- Reads members one after another; the first bad one is reported. -/
def readMembers (shape : RecordShape) :
    Entries Json → Table Datum → Except Failure (Table Datum)
  | [], r => .ok r
  | (name, j) :: ms, r =>
    match shape.fields.lookup name with
    | none => readMembers shape ms r
    | some kind => do
      let datum ← Datum.ofJson kind j
      readMembers shape ms (r.insert name datum)

/-- The first field of a shape that a record does not have. -/
def missing? (shape : RecordShape) (r : Table Datum) : Option String :=
  (shape.fields.map Prod.fst).find? fun name => !r.contains name

/-- The record that a JSON object holds. -/
def read (shape : RecordShape) : Json → Except Failure (Table Datum)
  | .object members => do
    let r ← shape.readMembers members ∅
    match shape.missing? r with
    | some name => throw (.shape (.missingField name))
    | none => return r
  | j => .error (.shape (.wrongKind j ("struct " ++ shape.name)))

/-- Reads the record that a stored document holds; its identifier counts as the field `id`. -/
def ofStored (shape : RecordShape) (d : StoredDocument) : Except Failure (Table Datum) :=
  shape.read d.toJson

/-- Reads a record from each of some stored documents; the first failure is the answer for all. -/
def ofAllStored (shape : RecordShape) : List StoredDocument → Except Failure (List (Table Datum))
  | [] => .ok []
  | d :: ds => do
    let r ← shape.ofStored d
    let rs ← ofAllStored shape ds
    return r :: rs

end RecordShape

namespace Record

/-- The JSON form of a record. -/
def toJson (r : Table Datum) : Json := .object (r.map Datum.toJson).entries

/-- The document that a record makes, without its identifier. -/
def toDocument (r : Table Datum) : Except Failure Document :=
  Document.ofJson (toJson (r.erase "id"))

end Record

end Docstore

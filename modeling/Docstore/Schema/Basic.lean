import Docstore.Document

/-!
# Schemas

A schema says which fields the documents of a collection may have. A field is declared bare, by its
type alone, or structured, with flags, a default and the name of a collection it refers to. Four types
are those of a kind of value; a field of any other type can hold nothing but null.

A type is written as a token, and every token is that of a type.
-/

namespace Docstore

/-- The declared type of a field: that of a kind of value, or one of one's own. -/
inductive FieldType where
  | string
  | number
  | boolean
  | date
  | custom (token : String)
deriving DecidableEq, Repr

namespace FieldType

/-- The type that a token stands for. -/
def ofToken (token : String) : FieldType :=
  if token = "string" then .string
  else if token = "number" then .number
  else if token = "boolean" then .boolean
  else if token = "date" then .date
  else .custom token

/-- The token that a type is written as. -/
def token : FieldType → String
  | .string => "string"
  | .number => "number"
  | .boolean => "boolean"
  | .date => "date"
  | .custom token => token

/-- The name of a type in messages. -/
def name : FieldType → String
  | .string => "String"
  | .number => "Number"
  | .boolean => "Boolean"
  | .date => "Date"
  | .custom token => token

/-- Whether a value is of a type. -/
def holds : FieldType → Value → Bool
  | .string, .string _ => true
  | .number, .number _ => true
  | .boolean, .boolean _ => true
  | .date, .date _ => true
  | _, _ => false

end FieldType

/-- A field with all its attributes. -/
structure FieldSpec where
  type : FieldType
  required : Bool
  nullable : Bool
  default? : Option Value
  ref? : Option String

/-- The declaration of a field. -/
inductive Field where
  | bare (type : FieldType)
  | structured (spec : FieldSpec)

namespace Field

/-- The attributes of a field. A bare one is neither required nor nullable, and has no default. -/
def spec : Field → FieldSpec
  | .bare type => ⟨type, false, false, none, none⟩
  | .structured spec => spec

def type (f : Field) : FieldType := f.spec.type

def required (f : Field) : Bool := f.spec.required

def nullable (f : Field) : Bool := f.spec.nullable

def default? (f : Field) : Option Value := f.spec.default?

def ref? (f : Field) : Option String := f.spec.ref?

def isBare : Field → Bool
  | .bare _ => true
  | .structured _ => false

/-- Equality of two defaults: both absent, or equal values. -/
def sameDefault : Option Value → Option Value → Bool
  | none, none => true
  | some v, some w => v.same w
  | _, _ => false

/-- Equality of declarations. A bare field differs from every structured one. -/
def same (f g : Field) : Bool :=
  f.isBare == g.isBare && f.type == g.type && f.required == g.required
    && f.nullable == g.nullable && sameDefault f.default? g.default? && f.ref? == g.ref?

end Field

/-- The declared fields of the documents of a collection. -/
abbrev Schema := Table Field

namespace Schema

/-- Equality of lists of declared fields. -/
def sameEntries : Entries Field → Entries Field → Bool
  | [], [] => true
  | e :: es, f :: fs => e.1 == f.1 && e.2.same f.2 && sameEntries es fs
  | _, _ => false

/-- Equality of schemas: the same names, with equal declarations. -/
def same (s t : Schema) : Bool := sameEntries s.entries t.entries

/-- The defaults of the fields that have one. -/
def defaults (s : Schema) : Document := s.filterMap Field.default?

/-- A document with the defaults of the fields it has no value for. -/
def complete (s : Schema) (d : Document) : Document := s.defaults.overlay d

end Schema

end Docstore

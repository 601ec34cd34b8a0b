import Docstore.Bson.Basic
import Docstore.Bson.FieldName
import Docstore.Bson.Stored
import Docstore.Bson.Text
import Docstore.Document
import Docstore.Entries
import Docstore.Failure
import Docstore.Filter.Basic
import Docstore.Filter.Translation
import Docstore.Json.Basic
import Docstore.Json.Choice
import Docstore.Json.Reader
import Docstore.Json.Shape
import Docstore.Json.Text
import Docstore.Model.Basic
import Docstore.Model.Options
import Docstore.Model.Registry
import Docstore.Number.Binary64
import Docstore.Number.Decimal128
import Docstore.Number.Rounding
import Docstore.Number.Shortest
import Docstore.Number.Text
import Docstore.Plural.English
import Docstore.Plural.Pluralizer
import Docstore.Query.Constraint
import Docstore.Query.Entry
import Docstore.Query.Operator
import Docstore.Query.Selection
import Docstore.Record
import Docstore.Schema.Basic
import Docstore.Schema.Json
import Docstore.Schema.Validation
import Docstore.Store.Call
import Docstore.Store.Memory
import Docstore.Store.Recorder
import Docstore.Store.Uuid
import Docstore.Table
import Docstore.Text.Base64
import Docstore.Text.Blank
import Docstore.Text.CodeRange
import Docstore.Text.LetterCase
import Docstore.Text.LetterCase.Mappings
import Docstore.Text.LetterCase.Properties
import Docstore.Text.Numeral
import Docstore.Text.Quoted
import Docstore.Text.Quoted.Escaped
import Docstore.Time.Civil
import Docstore.Time.Instant
import Docstore.Time.Rfc3339
import Docstore.Value.Basic
import Docstore.Value.Bson
import Docstore.Value.Json
import Docstore.Value.Order
import Docstore.Value.Text
import Docstore.Proofs.Result.List
import Docstore.Proofs.Table.Reading
import Docstore.Proofs.Number.Rounding
import Docstore.Proofs.Time.Civil
import Docstore.Proofs.Time.Instant
import Docstore.Proofs.Value.Equality
import Docstore.Proofs.Value.SortOrder
import Docstore.Proofs.Query.Malformed
import Docstore.Proofs.Query.Meaning
import Docstore.Proofs.Query.Ties
import Docstore.Proofs.Schema.Acceptance
import Docstore.Proofs.Schema.Refusal
import Docstore.Proofs.Schema.Grammar
import Docstore.Proofs.Store.History
import Docstore.Proofs.Store.Listing
import Docstore.Proofs.Store.Ranges
import Docstore.Proofs.Store.Operators
import Docstore.Proofs.Store.ConstraintOrder
import Docstore.Proofs.Store.Extent
import Docstore.Proofs.Store.Independence
import Docstore.Proofs.Store.Interleaving
import Docstore.Proofs.Model.Acceptance
import Docstore.Proofs.Model.Delegation
import Docstore.Proofs.Model.Locality
import Docstore.Proofs.Model.Readdition
import Docstore.Proofs.Model.Naming
import Docstore.Proofs.Bson.Replacement
import Docstore.Proofs.Bson.FieldName
import Docstore.Proofs.Bson.Restoration
import Docstore.Proofs.Bson.ArrayOrder
import Docstore.Proofs.Bson.Order
import Docstore.Proofs.Bson.Stored
import Docstore.Proofs.Bson.Separation
import Docstore.Proofs.Bson.RoundTrip
import Docstore.Proofs.Filter.Database
import Docstore.Proofs.Filter.Reference
import Docstore.Proofs.Filter.Absence
import Docstore.Proofs.Filter.Arrays
import Docstore.Proofs.Filter.Scalars
import Docstore.Proofs.Filter.SortNames
import Docstore.Proofs.Time.Rfc3339
import Docstore.Proofs.Value.Json
import Docstore.Proofs.Value.Normal
import Docstore.Proofs.Schema.RoundTrip
import Docstore.Proofs.Query.Grammar
import Docstore.Proofs.Query.Translation
import Docstore.Proofs.Schema.Relaxation
import Docstore.Proofs.Model.Defaults
import Docstore.Proofs.Model.Registration
import Docstore.Proofs.Bson.Values
import Docstore.Proofs.Text.LetterCase
import Docstore.Proofs.Text.Padding
import Docstore.Proofs.Text.AsciiCase
import Docstore.Proofs.Text.Bytes
import Docstore.Proofs.Plural.Endings
import Docstore.Proofs.Plural.Tables
import Docstore.Proofs.Plural.Kept
import Docstore.Proofs.Plural.Additions
import Docstore.Proofs.Plural.IgnoringCase
import Docstore.Proofs.Plural.Collections
import Docstore.Proofs.Plural.Cuts

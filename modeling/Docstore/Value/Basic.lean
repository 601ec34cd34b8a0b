import Docstore.Number.Binary64
import Docstore.Time.Instant

/-!
# Values

What the field of a document can hold: null, a truth value, a number, a date, a string, or an array
of values. Objects are not among them.

`Value.same` is the equality that filters and schemas use. It compares numbers by value, so a NaN
differs from itself and the two zeros are equal.
-/

namespace Docstore

/-- The value of a field. -/
inductive Value where
  | null
  | boolean (b : Bool)
  | number (x : Binary64)
  | date (t : Instant)
  | string (s : String)
  | array (items : List Value)
deriving Inhabited

/-- The kinds of values, in the order in which they are sorted. -/
inductive Kind where
  | null
  | boolean
  | number
  | date
  | string
  | array
deriving DecidableEq, Repr

namespace Kind

/-- The place of a kind among the others. -/
def rank : Kind → Nat
  | .null => 0
  | .boolean => 1
  | .number => 2
  | .date => 3
  | .string => 4
  | .array => 5

def name : Kind → String
  | .null => "null"
  | .boolean => "boolean"
  | .number => "number"
  | .date => "date"
  | .string => "string"
  | .array => "array"

theorem rank_injective {j k : Kind} (h : j.rank = k.rank) : j = k := by
  cases j <;> cases k <;> simp_all [rank]

end Kind

namespace Value

def kind : Value → Kind
  | .null => .null
  | .boolean _ => .boolean
  | .number _ => .number
  | .date _ => .date
  | .string _ => .string
  | .array _ => .array

/-- The items of an array. -/
def items? : Value → Option (List Value)
  | .array items => some items
  | _ => none

def isNull : Value → Bool
  | .null => true
  | _ => false

def isArray : Value → Bool
  | .array _ => true
  | _ => false

theorem isNull_iff {v : Value} : v.isNull = true ↔ v = .null := by
  cases v <;> simp [isNull]

/-- Induction on values: the items of an array come before the array. -/
@[elab_as_elim]
theorem induction {motive : Value → Prop} (null : motive .null)
    (boolean : ∀ b, motive (.boolean b)) (number : ∀ x, motive (.number x))
    (date : ∀ t, motive (.date t)) (string : ∀ s, motive (.string s))
    (array : ∀ items, (∀ v ∈ items, motive v) → motive (.array items)) : ∀ v, motive v
  | .null => null
  | .boolean b => boolean b
  | .number x => number x
  | .date t => date t
  | .string s => string s
  | .array items => array items fun v _ => induction null boolean number date string array v

mutual

/-- Equality of values, with numbers compared by value. -/
def same : Value → Value → Bool
  | .null, .null => true
  | .boolean a, .boolean b => a == b
  | .number x, .number y => x.sameValue y
  | .date s, .date t => s == t
  | .string s, .string t => s == t
  | .array xs, .array ys => sameItems xs ys
  | _, _ => false

/-- Equality of arrays: as long as each other, with equal items. -/
def sameItems : List Value → List Value → Bool
  | [], [] => true
  | x :: xs, y :: ys => same x y && sameItems xs ys
  | _, _ => false

end

/-- Whether an array has an item equal to a value. -/
def hasItem (items : List Value) (v : Value) : Bool := items.any fun i => i.same v

end Value

end Docstore

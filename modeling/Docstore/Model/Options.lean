import Docstore.Json.Choice
import Docstore.Schema.Validation

/-!
# Options

How a model adds documents: what it makes of missing required fields, and whether it fills in
defaults. In JSON they are an object, of which unknown members do not matter, or an array of the two
in this order; what is left out is as in `Options.standard`.
-/

namespace Docstore

/-- How a model adds documents. -/
structure Options where
  missingRequired : MissingRequired
  applyDefaults : Bool
deriving DecidableEq, Repr

namespace Options

/-- Missing required fields are rejected, and defaults are filled in. -/
def standard : Options := ⟨.reject, true⟩

def missingRequiredKey : String := "missingRequired"

def applyDefaultsKey : String := "applyDefaults"

/-- The policies and their names. -/
def policies : List (String × MissingRequired) :=
  [.reject, .ignore].map fun p => (p.name, p)

/-- Sets the policy for missing required fields. -/
def readMissingRequired (o : Options) (j : Json) : Except ShapeFault Options := do
  return { o with missingRequired := ← Json.choice policies j }

/-- Sets whether defaults are filled in. -/
def readApplyDefaults (o : Options) : Json → Except ShapeFault Options
  | .boolean b => .ok { o with applyDefaults := b }
  | j => .error (.wrongKind j "a boolean")

/-- Reads the members of an object in their order. -/
def readMembers : Entries Json → Options → Except ShapeFault Options
  | [], o => .ok o
  | (name, j) :: ms, o => do
    let o ←
      if name = missingRequiredKey then o.readMissingRequired j
      else if name = applyDefaultsKey then o.readApplyDefaults j
      else .ok o
    readMembers ms o

/-- Reads the items of an array, at most two. -/
def readItems : List Json → Except ShapeFault Options
  | [] => .ok standard
  | [missing] => standard.readMissingRequired missing
  | [missing, defaults] => do (← standard.readMissingRequired missing).readApplyDefaults defaults
  | missing :: defaults :: rest => do
    let _ ← (← standard.readMissingRequired missing).readApplyDefaults defaults
    throw (.tooManyItems (rest.length + 2))

/-- The options that a JSON value stands for. -/
def ofJson (j : Json) : Except Failure Options :=
  let result := match j with
    | .object members => readMembers members standard
    | .array items => readItems items
    | j => .error (.wrongKind j "struct ModelOptions")
  result.mapError .shape

end Options

end Docstore

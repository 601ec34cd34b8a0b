import Docstore.Model.Basic
import Docstore.Plural.Pluralizer

/-!
# Registries

A registry makes models that share a store, a way of forming plurals, and options. A model is
registered under a singular name; its collection is named by the plural.
-/

namespace Docstore

/-- What the models of an application share. -/
structure Registry (σ : Type u) where
  adapter : Adapter σ
  pluralizer : Pluralizer
  options : Options

namespace Registry

/-- A registry from its parts, of which only the adapter has to be given. -/
def build (adapter? : Option (Adapter σ)) (pluralizer? : Option Pluralizer) (options : Options) :
    Except Failure (Registry σ) :=
  match adapter? with
  | some adapter => .ok ⟨adapter, pluralizer?.getD (.english .standard), options⟩
  | none => .error (.setup .adapterMissing)

/-- Registers a model for documents of a kind with a given name. -/
def register (r : Registry σ) (name : String) (schema? : Option Schema) : Except Failure Model := do
  if name = "" then throw (.configuration .nameMissing)
  match schema? with
  | none => throw (.configuration .schemaMissing)
  | some schema => Model.named (r.pluralizer.plural name) schema r.options

end Registry

end Docstore

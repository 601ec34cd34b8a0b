import Docstore.Model.Registry
import Docstore.Proofs.Model.Naming

/-!
# Registration

A registration with a schema names a model by the plural of the given name, and fails just if that
plural is empty: the check of the given name adds nothing, since no name has an empty plural sooner than
the empty one (`Registry.register_some`). So a name is registered for a collection exactly when the
collection is its plural and not empty (`Registry.registers_iff`).
-/

namespace Docstore

theorem Pluralizer.plural_empty (p : Pluralizer) : p.plural "" = "" := by
  cases p <;> rfl

theorem Model.named_eq_ok_iff {text : String} {schema : Schema} {options : Options} {m : Model} :
    Model.named text schema options = .ok m ↔
      ∃ nonempty : text ≠ "", m = ⟨some ⟨text, nonempty⟩, schema, options⟩ := by
  by_cases empty : text = ""
  · subst empty
    exact iff_of_false nofun fun ⟨nonempty, _⟩ => nonempty rfl
  · rw [Model.named, setName_of_unnamed rfl empty]
    exact ⟨fun h => ⟨empty, (Except.ok.inj h).symm⟩, fun ⟨_, h⟩ => congrArg Except.ok h.symm⟩

namespace Registry

variable {r : Registry σ} {name collection : String}

theorem register_some (r : Registry σ) (name : String) (schema : Schema) :
    r.register name (some schema) = Model.named (r.pluralizer.plural name) schema r.options := by
  by_cases empty : name = ""
  · subst empty
    rw [Pluralizer.plural_empty]
    rfl
  · rw [register, if_neg empty]

/-- A name is registered for the collection that is its plural, whatever the schema. -/
theorem registers_iff {schema : Schema} :
    (∃ m, r.register name (some schema) = .ok m ∧ m.collection = .ok collection) ↔
      r.pluralizer.plural name = collection ∧ collection ≠ "" := by
  simp only [register_some, Model.named_eq_ok_iff]
  constructor
  · rintro ⟨_, ⟨nonempty, rfl⟩, named⟩
    cases named
    exact ⟨rfl, nonempty⟩
  · rintro ⟨rfl, nonempty⟩
    exact ⟨_, ⟨nonempty, rfl⟩, rfl⟩

end Registry

end Docstore

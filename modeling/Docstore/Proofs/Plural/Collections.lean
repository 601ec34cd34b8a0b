import Docstore.Proofs.Model.Registration
import Docstore.Proofs.Plural.Tables
import Docstore.Proofs.Text.Padding

/-!
# Names of collections

Whether a name can be registered does not depend on how its plural is formed: with the standard English
plurals, or with names that stay as they are, every name that is not all white space gives the name of a
collection, which is not empty and has no white space around it (`Pluralizer.plural_bare`). The white
space around a name is of no account for any pluralizer (`Pluralizer.plural_congr`).

`Registry.register_names_collection` says what a registration comes to, and which of its checks is named
when it fails: the name is looked at first, then the schema, then the plural. Words that a caller adds are
left out here, since an added plural may be empty or have white space around it.
-/

namespace Docstore

namespace Pluralizer

variable {p : Pluralizer} {name other : String}

/-- Names that are one without the white space around them have one plural. -/
theorem plural_congr (same : trimmed name.toList = trimmed other.toList) :
    p.plural name = p.plural other := by
  cases p with
  | english words => simp only [plural, English.plural, same]
  | verbatim => simp only [plural, same]

theorem plural_of_blank (blank : trimmed name.toList = []) : p.plural name = "" := by
  have as_empty : trimmed name.toList = trimmed "".toList := blank
  rw [plural_congr as_empty, plural_empty]

/-- The plural of a name that is not all white space is not empty and has no white space around it. -/
theorem plural_bare (preset : p = .english .standard ∨ p = .verbatim)
    (nonblank : trimmed name.toList ≠ []) :
    p.plural name ≠ "" ∧ trimmed (p.plural name).toList = (p.plural name).toList := by
  have bare : trimmed (trimmed name.toList) = trimmed name.toList := trimmed_trimmed _
  rcases preset with rfl | rfl
  · rw [plural, English.plural_of_nonblank nonblank, String.toList_ofList, Ne,
      ← String.toList_eq_nil_iff, String.toList_ofList]
    exact English.pluralOf_bare nonblank bare
  · rw [plural, String.toList_ofList, Ne, ← String.toList_eq_nil_iff, String.toList_ofList]
    exact ⟨nonblank, bare⟩

theorem plural_eq_empty_iff (preset : p = .english .standard ∨ p = .verbatim) :
    p.plural name = "" ↔ ∀ c ∈ name.toList, isBlank c = true := by
  rw [← trimmed_eq_nil_iff]
  constructor
  · intro empty
    by_contra nonblank
    exact (plural_bare preset nonblank).1 empty
  · exact plural_of_blank

end Pluralizer

theorem Model.named_empty (schema : Schema) (options : Options) :
    Model.named "" schema options = .error (.configuration .nameMissing) :=
  setName_empty _

namespace Registry

variable {r : Registry σ} {name : String}

/-- Without a schema no name is registered. -/
theorem register_none (r : Registry σ) (name : String) :
    r.register name none =
      .error (.configuration (if name = "" then .nameMissing else .schemaMissing)) := by
  rw [register]
  split
  · rfl
  · rfl

/-- With a schema, the plural of the name is asked for, and is refused if it is empty. -/
theorem register_some_cases (r : Registry σ) (name : String) (schema : Schema) :
    r.pluralizer.plural name = "" ∧
        r.register name (some schema) = .error (.configuration .nameMissing) ∨
      r.pluralizer.plural name ≠ "" ∧ ∃ m, r.register name (some schema) = .ok m ∧
        m.collection = .ok (r.pluralizer.plural name) := by
  by_cases empty : r.pluralizer.plural name = ""
  · refine .inl ⟨empty, ?_⟩
    rw [register_some, empty, Model.named_empty]
  · exact .inr ⟨empty, registers_iff.mpr ⟨rfl, empty⟩⟩

/-- Whatever the pluralizer, a registration that fails names the first check that is not passed. -/
theorem eq_of_register_eq_error {schema? : Option Schema} {failure : Failure}
    (failed : r.register name schema? = .error failure) :
    failure = .configuration (if name = "" then .nameMissing
      else if schema?.isNone then .schemaMissing else .nameMissing) := by
  cases schema? with
  | none =>
    rw [register_none] at failed
    cases failed
    rfl
  | some schema =>
    rcases register_some_cases r name schema with ⟨-, refused⟩ | ⟨-, m, registered, -⟩
    · cases failed.symm.trans refused
      rw [Option.isNone_some, if_neg Bool.false_ne_true, ite_self]
    · cases failed.symm.trans registered

theorem exists_register_iff (preset : r.pluralizer = .english .standard ∨ r.pluralizer = .verbatim)
    {schema? : Option Schema} :
    (∃ m, r.register name schema? = .ok m) ↔
      schema?.isSome ∧ ∃ c ∈ name.toList, isBlank c = false := by
  cases schema? with
  | none =>
    rw [register_none]
    exact iff_of_false nofun fun h => Bool.false_ne_true h.1
  | some schema =>
    have nonblank_iff : (∃ c ∈ name.toList, isBlank c = false) ↔ r.pluralizer.plural name ≠ "" := by
      rw [Ne, Pluralizer.plural_eq_empty_iff preset]
      simp only [not_forall, Bool.not_eq_true, exists_prop]
    rw [nonblank_iff, Option.isSome_some, and_iff_right rfl]
    rcases register_some_cases r name schema with ⟨empty, refused⟩ | ⟨nonempty, m, registered, -⟩
    · rw [refused]
      exact iff_of_false nofun fun nonempty => nonempty empty
    · exact iff_of_true ⟨m, registered⟩ nonempty

theorem collection_of_register
    (preset : r.pluralizer = .english .standard ∨ r.pluralizer = .verbatim) {schema? : Option Schema}
    {m : Model} (registered : r.register name schema? = .ok m) :
    m.collection = .ok (r.pluralizer.plural name) ∧ r.pluralizer.plural name ≠ "" ∧
      trimmed (r.pluralizer.plural name).toList = (r.pluralizer.plural name).toList := by
  cases schema? with
  | none =>
    rw [register_none] at registered
    cases registered
  | some schema =>
    rcases register_some_cases r name schema with ⟨-, refused⟩ | ⟨nonempty, _, same, named⟩
    · cases registered.symm.trans refused
    · cases registered.symm.trans same
      have nonblank : trimmed name.toList ≠ [] := mt Pluralizer.plural_of_blank nonempty
      exact ⟨named, Pluralizer.plural_bare preset nonblank⟩

/-- A registry with the standard English plurals, or one that keeps names, registers a name exactly if
there is a schema and the name is not all white space. The collection has a name that is not empty and
has no white space around it, and is the one for all names that differ only in the white space around
them. A registration that fails names the first of three reasons: the name is empty, the schema is
missing, the plural is empty. -/
theorem register_names_collection (r : Registry σ)
    (preset : r.pluralizer = .english .standard ∨ r.pluralizer = .verbatim) (name : String)
    (schema? : Option Schema) :
    ((∃ m, r.register name schema? = .ok m) ↔
        schema?.isSome ∧ ∃ c ∈ name.toList, isBlank c = false) ∧
      (∀ m, r.register name schema? = .ok m → ∃ collection, m.collection = .ok collection ∧
        collection ≠ "" ∧ (∀ c ∈ collection.toList.head?, isBlank c = false) ∧
          (∀ c ∈ collection.toList.getLast?, isBlank c = false) ∧
            ∀ word other, Padded word name.toList → Padded word other.toList → ∀ otherSchema,
              ∃ again, r.register other (some otherSchema) = .ok again ∧
                again.collection = .ok collection) ∧
      ∀ failure, r.register name schema? = .error failure →
        failure = .configuration (if name = "" then .nameMissing
          else if schema?.isNone then .schemaMissing else .nameMissing) := by
  refine ⟨exists_register_iff preset, ?_, fun _ => eq_of_register_eq_error⟩
  intro m registered
  obtain ⟨named, nonempty, bare⟩ := collection_of_register preset registered
  obtain ⟨first, last⟩ := trimmed_eq_self_iff.mp bare
  refine ⟨_, named, nonempty, first, last, ?_⟩
  intro word other hname hother otherSchema
  have one : trimmed other.toList = trimmed name.toList :=
    trimmed_eq_trimmed_iff.mpr ⟨word, hother, hname⟩
  exact registers_iff.mpr ⟨Pluralizer.plural_congr one, nonempty⟩

/-- A registry with the standard English plurals. -/
def shelving : Registry (List AnyCall) := ⟨Recorder.adapter none, .english .standard, .standard⟩

theorem register_names_collection_box :
    ∃ collection, collection ≠ "" ∧
      (∃ m, shelving.register "\u3000Box\n" (some ∅) = .ok m ∧ m.collection = .ok collection) ∧
        ∃ m, shelving.register "Box" (some ∅) = .ok m ∧ m.collection = .ok collection := by
  obtain ⟨registers, usable, -⟩ :=
    register_names_collection shelving (.inl rfl) "\u3000Box\n" (some ∅)
  obtain ⟨m, registered⟩ := registers.mpr ⟨rfl, 'B', by decide, by decide⟩
  obtain ⟨collection, named, nonempty, -, -, others⟩ := usable m registered
  have inside : Padded (trimmed "\u3000Box\n".toList) "Box".toList :=
    ⟨[], [], nofun, nofun, by decide +kernel⟩
  exact ⟨collection, nonempty, ⟨m, registered, named⟩, others _ "Box" (padded_trimmed _) inside ∅⟩

end Registry

end Docstore

import Docstore.Schema.Validation

/-!
# Acceptance

What `Schema.validate` decides, said without the order in which it looks: `Schema.Accepts` asks that
every entry of a document is declared and taken by its field, and, when missing fields are rejected,
that every required field is there. `validate_eq_ok_iff` is the bridge. `FieldType.Holds` says what a
field takes besides null: the values of its type, of which a type of one's own has none.

Acceptance is kept when changes that are accepted on their own are put over an accepted document
(`Accepts.overlay`), whatever the policy of the document: changes add names and replace values, and
never take a name away. That is why it is enough to look at changes alone.
-/

namespace Docstore

/-! ## Types -/

namespace FieldType

/-- The values of a type. A type of one's own has none. -/
inductive Holds : FieldType → Value → Prop
  | string (s : String) : Holds .string (.string s)
  | number (x : Binary64) : Holds .number (.number x)
  | boolean (b : Bool) : Holds .boolean (.boolean b)
  | date (t : Instant) : Holds .date (.date t)

variable {t : FieldType} {v : Value}

theorem holds_iff : t.holds v = true ↔ t.Holds v := by
  constructor
  · intro h
    unfold holds at h
    split at h
    · exact .string _
    · exact .number _
    · exact .boolean _
    · exact .date _
    · cases h
  · intro h
    cases h <;> rfl

theorem not_holds_null : ¬ t.Holds .null := nofun

theorem not_custom_holds {token : String} : ¬ (custom token).Holds v := nofun

/-- A type is one's own, or it is not. -/
theorem custom_or_known (t : FieldType) :
    (∃ token, t = .custom token) ∨ ∀ token, t ≠ .custom token := by
  cases t with
  | custom token => exact .inl ⟨token, rfl⟩
  | _ => exact .inr nofun

end FieldType

/-! ## Fields -/

namespace Field

/-- What a declaration says of its field: a type, and whether the field is required and nullable. A bare
field is neither. -/
inductive Declares : Field → FieldType → Bool → Bool → Prop
  | bare (type : FieldType) : Declares (.bare type) type false false
  | structured (spec : FieldSpec) :
    Declares (.structured spec) spec.type spec.required spec.nullable

theorem declares (f : Field) : f.Declares f.type f.required f.nullable := by
  cases f with
  | bare type => exact .bare type
  | structured spec => exact .structured spec

/-- A field takes a null if it is nullable, and the values of its type. -/
inductive Takes (f : Field) : Value → Prop
  | null (nullable : f.nullable = true) : f.Takes .null
  | held {v : Value} (h : f.type.Holds v) : f.Takes v

variable {f : Field} {name : String} {v : Value}

theorem takes_null_iff : f.Takes .null ↔ f.nullable = true := by
  constructor
  · intro taken
    cases taken with
    | null nullable => exact nullable
    | held h => exact absurd h FieldType.not_holds_null
  · exact .null

theorem takes_iff_of_ne_null (given : v ≠ .null) : f.Takes v ↔ f.type.Holds v := by
  constructor
  · intro taken
    cases taken with
    | null => exact absurd rfl given
    | held h => exact h
  · exact .held

theorem refusalOf?_null :
    f.refusalOf? name .null = if f.nullable then none else some (.nullNotAllowed name) := rfl

theorem refusalOf?_custom {token : String} (given : v ≠ .null) (custom : f.type = .custom token) :
    f.refusalOf? name v = some (.unsupportedType token name) := by
  rw [refusalOf?, if_neg (mt Value.isNull_iff.mp given), custom]

theorem refusalOf?_known (given : v ≠ .null) (known : ∀ token, f.type ≠ .custom token) :
    f.refusalOf? name v = if f.type.holds v then none else some (.wrongType name f.type.name) := by
  rw [refusalOf?, if_neg (mt Value.isNull_iff.mp given)]
  split
  · next token custom => exact absurd custom (known token)
  · rfl

theorem refusalOf?_eq_none_iff : f.refusalOf? name v = none ↔ f.Takes v := by
  by_cases given : v = .null
  · subst given
    rw [takes_null_iff, refusalOf?_null]
    cases f.nullable <;> simp
  · rw [takes_iff_of_ne_null given]
    rcases f.type.custom_or_known with ⟨token, custom⟩ | known
    · rw [refusalOf?_custom given custom, custom]
      exact iff_of_false nofun FieldType.not_custom_holds
    · rw [refusalOf?_known given known, ← FieldType.holds_iff]
      cases f.type.holds v <;> simp

end Field

/-! ## Schemas -/

/-- What a schema asks of a document. -/
structure Schema.Accepts (s : Schema) (missing : MissingRequired) (d : Document) : Prop where
  declared : ∀ name v, d.get? name = some v → ∃ f, s.get? name = some f ∧ f.Takes v
  complete : missing = .reject →
    ∀ name f, s.get? name = some f → f.required = true → d.contains name = true

namespace Schema

theorem entryRefusal?_eq_none_iff {s : Schema} {e : String × Value} :
    s.entryRefusal? e = none ↔ ∃ f, s.get? e.1 = some f ∧ f.Takes e.2 := by
  unfold entryRefusal?
  cases s.get? e.1 with
  | none => simp
  | some f => simp [Field.refusalOf?_eq_none_iff]

theorem missingRefusal?_eq_none_iff {d : Document} {e : String × Field} :
    missingRefusal? d e = none ↔ (e.2.required = true → d.contains e.1 = true) := by
  unfold missingRefusal?
  cases e.2.required <;> cases d.contains e.1 <;> simp

/-- No entry of a document is refused exactly if each is declared and taken. -/
theorem entries_refused_iff {s : Schema} {d : Document} :
    d.entries.findSome? s.entryRefusal? = none ↔
      ∀ name v, d.get? name = some v → ∃ f, s.get? name = some f ∧ f.Takes v := by
  rw [List.findSome?_eq_none_iff]
  simp only [entryRefusal?_eq_none_iff]
  exact Table.forall_mem_entries_iff fun name v => ∃ f, s.get? name = some f ∧ f.Takes v

/-- No field of a schema is missed exactly if each required one is there. -/
theorem fields_missed_iff {s : Schema} {d : Document} :
    s.entries.findSome? (missingRefusal? d) = none ↔
      ∀ name f, s.get? name = some f → f.required = true → d.contains name = true := by
  rw [List.findSome?_eq_none_iff]
  simp only [missingRefusal?_eq_none_iff]
  exact Table.forall_mem_entries_iff fun name (f : Field) =>
    f.required = true → d.contains name = true

theorem refusal?_eq_none_iff {s : Schema} {missing : MissingRequired} {d : Document} :
    s.refusal? missing d = none ↔ s.Accepts missing d := by
  unfold refusal?
  rw [Option.or_eq_none_iff, entries_refused_iff]
  cases missing with
  | reject =>
    rw [fields_missed_iff]
    exact ⟨fun h => ⟨h.1, fun _ => h.2⟩, fun h => ⟨h.declared, h.complete rfl⟩⟩
  | ignore => exact ⟨fun h => ⟨h.1, fun h => nomatch h⟩, fun h => ⟨h.declared, rfl⟩⟩

/-- Validation lets exactly the accepted documents through. -/
theorem validate_eq_ok_iff {s : Schema} {missing : MissingRequired} {d : Document} :
    s.validate missing d = .ok () ↔ s.Accepts missing d := by
  rw [← refusal?_eq_none_iff]
  unfold validate
  cases s.refusal? missing d <;> simp

/-- Changes that are accepted on their own keep a document accepted: what they bring is declared and
taken, and no name that was there goes. -/
theorem Accepts.overlay {s : Schema} {missing : MissingRequired} {d changes : Document}
    (hd : s.Accepts missing d) (hc : s.Accepts .ignore changes) :
    s.Accepts missing (d.overlay changes) := by
  constructor
  · intro name v hv
    rw [Table.get?_overlay] at hv
    cases hn : changes.get? name with
    | none =>
      rw [hn, Option.none_or] at hv
      exact hd.declared name v hv
    | some w =>
      rw [hn, Option.some_or] at hv
      cases hv
      exact hc.declared name v hn
  · intro hm name f hf hr
    have there := hd.complete hm name f hf hr
    unfold Table.contains at there ⊢
    rw [Table.get?_overlay, Option.isSome_or, there, Bool.or_true]

end Schema

end Docstore

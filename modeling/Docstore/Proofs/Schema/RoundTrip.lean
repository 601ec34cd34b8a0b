import Docstore.Proofs.Schema.Grammar
import Docstore.Proofs.Value.Normal

/-!
# Schemas written in JSON and read again

A written schema is read field by field (`Schema.ofJson_toJson_eq_ok_iff`), and each field is read as
`Field.reread`: with the type of its token and what is read of its default in place of the type and the
default, and with everything else as it was.

A type that a token stands for is read as it was, and a type of one's own is not if its token is that of
another type. What JSON does to a value it does to a default too. But the reader of fields takes null for
no default, and so null is lost as a default, though it is a value that JSON keeps
(`Schema.rereads_same_iff`).
-/

namespace Docstore

namespace Value

theorem fourDigitYears_of_toJson_eq_null {v : Value} (h : v.toJson = .null) : v.FourDigitYears :=
  fourDigitYears_of_ofJson_toJson (w := .null) (by rw [h]; rfl)

/-- What is written as null is just what is read as null. -/
theorem toJson_eq_null_iff {v : Value} : v.toJson = .null ↔ v.reread = .null := by
  constructor
  · intro written
    have read := ofJson_toJson (fourDigitYears_of_toJson_eq_null written)
    rw [written] at read
    exact (Except.ok.inj read).symm
  · intro read
    rw [← toJson_reread, read]
    rfl

theorem same_null_iff {v : Value} : v.same .null = true ↔ v = .null := by
  cases v <;> simp [same]

end Value

/-- A type is read as it was if there is a token that stands for it. -/
theorem FieldType.eq_ofToken_token_iff {t : FieldType} :
    t = ofToken t.token ↔ ∃ token, t.SpelledAs token := by
  constructor
  · intro same
    exact ⟨t.token, spelledAs_iff.mpr same⟩
  · rintro ⟨token, spelled⟩
    rw [token_of_spelledAs spelled]
    exact spelledAs_iff.mp spelled

namespace FieldSpec

/-! ## Attributes -/

theorem typeWritten_given_iff {token : String} {t : FieldType} :
    TypeWritten (some (.string token)) t ↔ t = .ofToken token := by
  rw [← FieldType.spelledAs_iff]
  constructor
  · rintro ⟨spelled⟩
    exact spelled
  · exact .given

/-- What is read of a written default. -/
def rereadDefault (v : Value) : Option Value :=
  match v.reread with
  | .null => none
  | w => some w

theorem rereadDefault_of_null {v : Value} (h : v.reread = .null) : rereadDefault v = none := by
  rw [rereadDefault, h]

theorem rereadDefault_of_ne_null {v : Value} (h : v.reread ≠ .null) :
    rereadDefault v = some v.reread := by
  unfold rereadDefault
  split
  · next null => exact absurd null h
  · rfl

/-- A written default is read if its years have four digits. -/
theorem defaultWritten_toJson_iff {v : Value} {default? : Option Value} :
    DefaultWritten (some v.toJson) default? ↔ default? = rereadDefault v ∧ v.FourDigitYears := by
  constructor
  · intro h
    generalize written : v.toJson = j at h
    cases h with
    | null =>
      have lost := rereadDefault_of_null (Value.toJson_eq_null_iff.mp written)
      exact ⟨lost.symm, Value.fourDigitYears_of_toJson_eq_null written⟩
    | given other read =>
      subst written
      obtain ⟨rfl, years⟩ := Value.ofJson_toJson_eq_ok_iff.mp read
      have kept := rereadDefault_of_ne_null fun null => other (Value.toJson_eq_null_iff.mpr null)
      exact ⟨kept.symm, years⟩
  · rintro ⟨rfl, years⟩
    by_cases null : v.reread = .null
    · rw [rereadDefault_of_null null, Value.toJson_eq_null_iff.mpr null]
      exact .null
    · rw [rereadDefault_of_ne_null null]
      have other : v.toJson ≠ .null := mt Value.toJson_eq_null_iff.mp null
      exact .given other (Value.ofJson_toJson years)

theorem defaultWritten_map_iff {v? default? : Option Value} :
    DefaultWritten (v?.map Value.toJson) default? ↔
      default? = v?.bind rereadDefault ∧ ∀ v, v? = some v → v.FourDigitYears := by
  cases v? with
  | none =>
    constructor
    · rintro ⟨⟩
      exact ⟨rfl, nofun⟩
    · rintro ⟨rfl, -⟩
      exact .absent
  | some v =>
    simp only [Option.map_some, Option.bind_some, Option.some.injEq, forall_eq']
    exact defaultWritten_toJson_iff

theorem flagWritten_given_iff {b c : Bool} : FlagWritten (some (.boolean b)) c ↔ c = b := by
  constructor
  · rintro ⟨⟩
    rfl
  · rintro rfl
    exact .given c

theorem refWritten_map_iff {name? ref? : Option String} :
    RefWritten (name?.map .string) ref? ↔ ref? = name? := by
  constructor
  · intro h
    cases name? <;> cases h <;> rfl
  · rintro rfl
    cases ref? with
    | none => exact .absent
    | some name => exact .given name

/-! ## Structured fields -/

theorem known_toMembers (spec : FieldSpec) : ∀ m ∈ spec.toMembers, m.1 ∈ attributeNames := by
  obtain ⟨type, required, nullable, default?, ref?⟩ := spec
  cases default? <;> cases ref? <;> simp [toMembers, attributeNames]

/-- Each attribute is written under its name. -/
theorem get?_toMembers (spec : FieldSpec) :
    Entries.get? "type" spec.toMembers = some (.string spec.type.token) ∧
      Entries.get? "required" spec.toMembers = some (.boolean spec.required) ∧
      Entries.get? "nullable" spec.toMembers = some (.boolean spec.nullable) ∧
      Entries.get? "default" spec.toMembers = spec.default?.map Value.toJson ∧
      Entries.get? "ref" spec.toMembers = spec.ref?.map .string := by
  obtain ⟨type, required, nullable, default?, ref?⟩ := spec
  cases default? <;> cases ref? <;> exact ⟨rfl, rfl, rfl, rfl, rfl⟩

/-- What is read of a written structured field. -/
def reread (spec : FieldSpec) : FieldSpec :=
  { spec with type := .ofToken spec.type.token, default? := spec.default?.bind rereadDefault }

theorem writtenAs_toMembers_iff {spec read : FieldSpec} : read.WrittenAs spec.toMembers ↔
    read = spec.reread ∧ ∀ v, spec.default? = some v → v.FourDigitYears := by
  obtain ⟨type, required, nullable, default, ref⟩ := get?_toMembers spec
  constructor
  · rintro ⟨-, type', required', nullable', default', ref'⟩
    rw [type, typeWritten_given_iff] at type'
    rw [required, flagWritten_given_iff] at required'
    rw [nullable, flagWritten_given_iff] at nullable'
    rw [default, defaultWritten_map_iff] at default'
    rw [ref, refWritten_map_iff] at ref'
    refine ⟨?_, default'.2⟩
    calc read
      _ = ⟨read.type, read.required, read.nullable, read.default?, read.ref?⟩ := rfl
      _ = spec.reread := by rw [type', required', nullable', default'.1, ref', reread]
  · rintro ⟨rfl, years⟩
    refine ⟨known_toMembers spec, ?_, ?_, ?_, ?_, ?_⟩
    · exact type ▸ typeWritten_given_iff.mpr rfl
    · exact required ▸ flagWritten_given_iff.mpr rfl
    · exact nullable ▸ flagWritten_given_iff.mpr rfl
    · exact default ▸ defaultWritten_map_iff.mpr ⟨rfl, years⟩
    · exact ref ▸ refWritten_map_iff.mpr rfl

/-- A default is read as an equal one if it is not null and JSON loses nothing of it. -/
theorem sameDefault_bind_rereadDefault_iff {v? : Option Value} :
    Field.sameDefault v? (v?.bind rereadDefault) = true ↔ ∀ v, v? = some v → v ≠ .null ∧ v.Settled := by
  cases v? with
  | none => exact iff_of_true rfl nofun
  | some v =>
    simp only [Option.bind_some, Option.some.injEq, forall_eq', ← Value.same_reread_iff]
    by_cases null : v.reread = .null
    · rw [rereadDefault_of_null null, null, Value.same_null_iff]
      exact iff_of_false nofun fun h => h.1 h.2
    · rw [rereadDefault_of_ne_null null]
      have other : v ≠ .null := fun h => null (by rw [h]; rfl)
      exact (and_iff_right other).symm

end FieldSpec

namespace Field

/-! ## Fields -/

/-- What is read of a written field. -/
def reread : Field → Field
  | .bare type => .bare (.ofToken type.token)
  | .structured spec => .structured spec.reread

/-- A written field is read if the years of its default have four digits, and as nothing else. -/
theorem ofJson_toJson_eq_ok_iff {f g : Field} :
    ofJson f.toJson = .ok g ↔ g = f.reread ∧ ∀ v, f.default? = some v → v.FourDigitYears := by
  rw [ofJson_eq_ok_iff]
  cases f with
  | bare type =>
    constructor
    · rintro (written | listed)
      · cases written with
        | bare spelled => exact ⟨congrArg Field.bare (FieldType.spelledAs_iff.mp spelled), nofun⟩
      · cases listed
    · rintro ⟨rfl, -⟩
      exact .inl (.bare (FieldType.spelledAs_ofToken type.token))
  | structured spec =>
    constructor
    · rintro (written | listed)
      · cases written with
        | structured h =>
          obtain ⟨rfl, years⟩ := FieldSpec.writtenAs_toMembers_iff.mp h
          exact ⟨rfl, years⟩
      · cases listed
    · rintro ⟨rfl, years⟩
      exact .inl (.structured (FieldSpec.writtenAs_toMembers_iff.mpr ⟨rfl, years⟩))

/-- Everything but the type and the default is read as it was written. -/
theorem same_reread_iff {f : Field} : f.same f.reread = true ↔
    (∃ token, f.type.SpelledAs token) ∧ ∀ v, f.default? = some v → v ≠ .null ∧ v.Settled := by
  rw [← FieldSpec.sameDefault_bind_rereadDefault_iff, ← FieldType.eq_ofToken_token_iff]
  cases f <;>
    simp [same, reread, FieldSpec.reread, spec, isBare, type, required, nullable, default?, ref?,
      sameDefault]

end Field

namespace Schema

/-! ## Schemas -/

theorem sameEntries_map_iff {es : Entries Field} {f : Field → Field} :
    sameEntries es (es.map fun e => (e.1, f e.2)) = true ↔ ∀ e ∈ es, e.2.same (f e.2) = true := by
  induction es with
  | nil => simp [sameEntries]
  | cons e es ih => simp [sameEntries, ih]

theorem same_map_iff {s : Schema} {f : Field → Field} :
    s.same (s.map f) = true ↔ ∀ n g, s.get? n = some g → g.same (f g) = true :=
  sameEntries_map_iff.trans (Table.forall_mem_entries_iff fun _ (g : Field) => g.same (f g) = true)

/-- A written schema is read field by field. -/
theorem ofJson_toJson_eq_ok_iff {s t : Schema} :
    ofJson s.toJson = .ok t ↔ t = s.map Field.reread ∧
      ∀ n f, s.get? n = some f → ∀ v, f.default? = some v → v.FourDigitYears := by
  rw [toJson, ofJson_object]
  exact Table.readAll_map_eq_ok_iff fun f g => Field.ofJson_toJson_eq_ok_iff

/-- A written schema is read as an equal one just if there is a token for every type in it, and every
default is a value that JSON keeps, other than null. -/
theorem rereads_same_iff (s : Schema) :
    (∃ t, ofJson s.toJson = .ok t ∧ s.same t = true) ↔
      ∀ n f, s.get? n = some f → (∃ token, f.type.SpelledAs token) ∧
        ∀ v, f.default? = some v → v ≠ .null ∧ v.Settled ∧ v.FourDigitYears := by
  simp only [ofJson_toJson_eq_ok_iff]
  constructor
  · rintro ⟨t, ⟨rfl, years⟩, same⟩ n f found
    obtain ⟨spelled, kept⟩ := Field.same_reread_iff.mp (same_map_iff.mp same n f found)
    refine ⟨spelled, fun v default => ?_⟩
    obtain ⟨other, settled⟩ := kept v default
    exact ⟨other, settled, years n f found v default⟩
  · intro kept
    have years : ∀ n f, s.get? n = some f → ∀ v, f.default? = some v → v.FourDigitYears :=
      fun n f found v default => ((kept n f found).2 v default).2.2
    refine ⟨s.map Field.reread, ⟨rfl, years⟩, same_map_iff.mpr fun n f found => ?_⟩
    obtain ⟨spelled, kept⟩ := kept n f found
    refine Field.same_reread_iff.mpr ⟨spelled, fun v default => ?_⟩
    obtain ⟨other, settled, -⟩ := kept v default
    exact ⟨other, settled⟩

/-- A field that may be null, and is null if it is not given. -/
def nullByDefault : Schema := .ofList [("a", .structured ⟨.string, false, true, some .null, none⟩)]

/-- It is not so that a written schema is read as an equal one if there is a token for every type in it
and JSON keeps every default. -/
theorem not_forall_kept_rereads_same :
    ¬ ∀ s : Schema, (∀ n f, s.get? n = some f → (∃ token, f.type.SpelledAs token) ∧
        ∀ v, f.default? = some v → v.Settled ∧ v.FourDigitYears) →
      ∃ t, ofJson s.toJson = .ok t ∧ s.same t = true := by
  intro rereads
  have kept : ∀ n f, nullByDefault.get? n = some f → (∃ token, f.type.SpelledAs token) ∧
      ∀ v, f.default? = some v → v.Settled ∧ v.FourDigitYears := by
    intro n f found
    obtain ⟨-, same⟩ := Option.ite_none_right_eq_some.mp found
    cases same
    refine ⟨⟨_, .string⟩, fun v default => ?_⟩
    cases default
    exact ⟨.null, .null⟩
  obtain ⟨t, read, same⟩ := rereads nullByDefault kept
  obtain ⟨rfl, -⟩ := ofJson_toJson_eq_ok_iff.mp read
  exact absurd same (by decide)

end Schema

end Docstore

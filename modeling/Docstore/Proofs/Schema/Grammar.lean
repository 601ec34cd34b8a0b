import Docstore.Proofs.Table.Reading

/-!
# The grammar of written schemas

Which JSON is a schema, and of which fields, said without the reader. `FieldType.SpelledAs` has the token
of each type. `Field.WrittenAs` has the two forms of a field, a token and an object of attributes, and
`FieldSpec.WrittenAs` says what each attribute may be. `Schema.WrittenBy` lets every member of an object
be a field in a given form.

The reader takes one form more, an array of attributes without their names (`Field.ListedAs`). With it
the grammar is exact (`Schema.ofJson_eq_ok_iff`); without it, just for what is not read from such an
array (`Schema.ofJson_grammar`).
-/

namespace Docstore

/-! ## Types -/

namespace FieldType

/-- The token of a type. That of a type of one's own is none of the four others. -/
inductive SpelledAs : FieldType → String → Prop
  | string : SpelledAs .string "string"
  | number : SpelledAs .number "number"
  | boolean : SpelledAs .boolean "boolean"
  | date : SpelledAs .date "date"
  | custom {token : String} (other : token ∉ ["string", "number", "boolean", "date"]) :
    SpelledAs (.custom token) token

variable {t : FieldType} {token : String}

theorem spelledAs_ofToken (token : String) : (ofToken token).SpelledAs token := by
  unfold ofToken
  split_ifs with string number boolean date
  · exact string ▸ .string
  · exact number ▸ .number
  · exact boolean ▸ .boolean
  · exact date ▸ .date
  · exact .custom (by simp [string, number, boolean, date])

theorem token_of_spelledAs (h : t.SpelledAs token) : t.token = token := by
  cases h <;> rfl

/-- Each token is that of one type. -/
theorem spelledAs_iff : t.SpelledAs token ↔ t = ofToken token := by
  constructor
  · intro h
    cases h with
    | custom other =>
      simp only [List.mem_cons, List.not_mem_nil, or_false, not_or] at other
      obtain ⟨string, number, boolean, date⟩ := other
      rw [ofToken, if_neg string, if_neg number, if_neg boolean, if_neg date]
    | _ => rfl
  · rintro rfl
    exact spelledAs_ofToken token

end FieldType

namespace FieldSpec

/-! ## Attributes -/

/-- A type is given by its token. -/
inductive TypeWritten : Option Json → FieldType → Prop
  | given {t : FieldType} {token : String} (spelled : t.SpelledAs token) :
    TypeWritten (some (.string token)) t

/-- A flag is left out, which means false, or a truth value. -/
inductive FlagWritten : Option Json → Bool → Prop
  | absent : FlagWritten none false
  | given (b : Bool) : FlagWritten (some (.boolean b)) b

/-- A default is left out, null, which means none as well, or the JSON of another value. -/
inductive DefaultWritten : Option Json → Option Value → Prop
  | absent : DefaultWritten none none
  | null : DefaultWritten (some .null) none
  | given {j : Json} {v : Value} (other : j ≠ .null) (read : Value.ofJson j = .ok v) :
    DefaultWritten (some j) (some v)

/-- A reference is left out, null, which means none as well, or a name. -/
inductive RefWritten : Option Json → Option String → Prop
  | absent : RefWritten none none
  | null : RefWritten (some .null) none
  | given (name : String) : RefWritten (some (.string name)) (some name)

/-- A structured field written as members. Of the attributes only the type has to be there, and there
are no others. -/
structure WrittenAs (members : Entries Json) (spec : FieldSpec) : Prop where
  known : ∀ m ∈ members, m.1 ∈ attributeNames
  type : TypeWritten (Entries.get? "type" members) spec.type
  required : FlagWritten (Entries.get? "required" members) spec.required
  nullable : FlagWritten (Entries.get? "nullable" members) spec.nullable
  default : DefaultWritten (Entries.get? "default" members) spec.default?
  ref : RefWritten (Entries.get? "ref" members) spec.ref?

theorem typeOfJson?_eq_some_iff {j : Json} {t : FieldType} :
    typeOfJson? j = some t ↔ TypeWritten (some j) t := by
  constructor
  · intro h
    cases j with
    | string token =>
      cases h
      exact .given (FieldType.spelledAs_ofToken token)
    | _ => cases h
  · rintro ⟨spelled⟩
    rw [typeOfJson?, FieldType.spelledAs_iff.mp spelled]

theorem optional_flag_eq_some_iff {j? : Option Json} {b : Bool} :
    optional false flagOfJson? j? = some b ↔ FlagWritten j? b := by
  constructor
  · intro h
    rcases j? with _ | j
    · cases h
      exact .absent
    · cases j <;> cases h
      exact .given b
  · rintro (_ | _) <;> rfl

theorem optional_default_eq_some_iff {j? : Option Json} {d : Option Value} :
    optional none defaultOfJson? j? = some d ↔ DefaultWritten j? d := by
  constructor
  · intro h
    rcases j? with _ | j
    · cases h
      exact .absent
    · by_cases null : j = .null
      · subst null
        cases h
        exact .null
      · rw [optional, defaultOfJson?] at h
        · cases read : Value.ofJson j with
          | error e =>
            rw [read] at h
            cases h
          | ok v =>
            rw [read] at h
            cases h
            exact .given null read
        · exact null
  · rintro (_ | _ | ⟨other, read⟩)
    · rfl
    · rfl
    · rw [optional, defaultOfJson?, read]
      · rfl
      · exact other

theorem optional_ref_eq_some_iff {j? : Option Json} {name? : Option String} :
    optional none refOfJson? j? = some name? ↔ RefWritten j? name? := by
  constructor
  · intro h
    rcases j? with _ | j
    · cases h
      exact .absent
    · cases j with
      | null =>
        cases h
        exact .null
      | string name =>
        cases h
        exact .given name
      | _ => cases h
  · rintro (_ | _ | _) <;> rfl

/-- Attributes make the field that they are the attributes of. -/
theorem ofAttributes?_eq_some_iff {type : Json} {required nullable default ref : Option Json}
    {spec : FieldSpec} : ofAttributes? type required nullable default ref = some spec ↔
      TypeWritten (some type) spec.type ∧ FlagWritten required spec.required ∧
        FlagWritten nullable spec.nullable ∧ DefaultWritten default spec.default? ∧
          RefWritten ref spec.ref? := by
  constructor
  · intro h
    obtain ⟨_, typed, h⟩ := Option.bind_eq_some_iff.mp h
    obtain ⟨_, required, h⟩ := Option.bind_eq_some_iff.mp h
    obtain ⟨_, nullable, h⟩ := Option.bind_eq_some_iff.mp h
    obtain ⟨_, default, h⟩ := Option.bind_eq_some_iff.mp h
    obtain ⟨_, ref, h⟩ := Option.bind_eq_some_iff.mp h
    cases h
    exact ⟨typeOfJson?_eq_some_iff.mp typed, optional_flag_eq_some_iff.mp required,
      optional_flag_eq_some_iff.mp nullable, optional_default_eq_some_iff.mp default,
      optional_ref_eq_some_iff.mp ref⟩
  · rintro ⟨typed, required, nullable, default, ref⟩
    rw [ofAttributes?, typeOfJson?_eq_some_iff.mpr typed, optional_flag_eq_some_iff.mpr required,
      optional_flag_eq_some_iff.mpr nullable, optional_default_eq_some_iff.mpr default,
      optional_ref_eq_some_iff.mpr ref]
    rfl

/-! ## Structured fields -/

theorem ofJson?_object_eq_some_iff {members : Entries Json} {spec : FieldSpec} :
    ofJson? (.object members) = some spec ↔ spec.WrittenAs members := by
  have known_iff : (members.all fun m => attributeNames.contains m.1) = true ↔
      ∀ m ∈ members, m.1 ∈ attributeNames := by
    simp only [List.all_eq_true, List.contains_iff_mem]
  constructor
  · intro h
    rw [ofJson?] at h
    split at h
    · next known =>
      obtain ⟨type, found, h⟩ := Option.bind_eq_some_iff.mp h
      obtain ⟨typed, required, nullable, default, ref⟩ := ofAttributes?_eq_some_iff.mp h
      exact ⟨known_iff.mp known, found ▸ typed, required, nullable, default, ref⟩
    · cases h
  · rintro ⟨known, typed, required, nullable, default, ref⟩
    rw [ofJson?, if_pos (known_iff.mpr known)]
    generalize Entries.get? "type" members = type? at typed
    cases typed with
    | given spelled =>
      exact ofAttributes?_eq_some_iff.mpr ⟨.given spelled, required, nullable, default, ref⟩

/-- An array of attributes is read as the object of them under their names. -/
theorem ofJson?_array (items : List Json) :
    ofJson? (.array items) = if items.length ≤ attributeNames.length then
      ofJson? (.object (attributeNames.zip items)) else none := by
  match items with
  | [] => rfl
  | [_] => rfl
  | [_, _] => rfl
  | [_, _, _] => rfl
  | [_, _, _, _] => rfl
  | [_, _, _, _, _] => rfl
  | _ :: _ :: _ :: _ :: _ :: _ :: rest =>
    have too_many : ¬ rest.length + 6 ≤ attributeNames.length := Nat.not_le.mpr (Nat.le_add_left 6 _)
    rw [ofJson?]
    exact (if_neg too_many).symm

end FieldSpec

namespace Field

/-! ## Fields -/

/-- The forms of a field: the token of its type, or an object of its attributes. -/
inductive WrittenAs : Json → Field → Prop
  | bare {t : FieldType} {token : String} (spelled : t.SpelledAs token) :
    WrittenAs (.string token) (.bare t)
  | structured {members : Entries Json} {spec : FieldSpec} (h : spec.WrittenAs members) :
    WrittenAs (.object members) (.structured spec)

/-- A form of a field without names: an array of its attributes, cut off anywhere after the type. -/
inductive ListedAs : Json → Field → Prop
  | structured {items : List Json} {spec : FieldSpec}
    (short : items.length ≤ FieldSpec.attributeNames.length)
    (h : spec.WrittenAs (FieldSpec.attributeNames.zip items)) :
    ListedAs (.array items) (.structured spec)

/-- What is no token has to be a structured field. -/
theorem ofJson_eq_ok_iff_structured {j : Json} (untyped : ∀ token, j ≠ .string token) {f : Field} :
    ofJson j = .ok f ↔ ∃ spec, FieldSpec.ofJson? j = some spec ∧ f = .structured spec := by
  rw [ofJson]
  · cases FieldSpec.ofJson? j <;> simp [eq_comm]
  · exact untyped

/-- What is read as a field is written as one, or listed. -/
theorem ofJson_eq_ok_iff {j : Json} {f : Field} : ofJson j = .ok f ↔ WrittenAs j f ∨ ListedAs j f := by
  cases j with
  | string token =>
    rw [ofJson]
    constructor
    · intro h
      cases h
      exact .inl (.bare (FieldType.spelledAs_ofToken token))
    · rintro (written | listed)
      · cases written with
        | bare spelled => rw [FieldType.spelledAs_iff.mp spelled]
      · cases listed
  | object members =>
    rw [ofJson_eq_ok_iff_structured fun _ => Json.noConfusion]
    simp only [FieldSpec.ofJson?_object_eq_some_iff]
    constructor
    · rintro ⟨spec, written, rfl⟩
      exact .inl (.structured written)
    · rintro (written | listed)
      · cases written with
        | structured h => exact ⟨_, h, rfl⟩
      · cases listed
  | array items =>
    rw [ofJson_eq_ok_iff_structured fun _ => Json.noConfusion]
    simp only [FieldSpec.ofJson?_array, Option.ite_none_right_eq_some,
      FieldSpec.ofJson?_object_eq_some_iff]
    constructor
    · rintro ⟨spec, ⟨short, listed⟩, rfl⟩
      exact .inr (.structured short listed)
    · rintro (written | listed)
      · cases written
      · cases listed with
        | structured short h => exact ⟨_, ⟨short, h⟩, rfl⟩
  | _ => exact iff_of_false nofun nofun

/-- What is written as a field is what is read from something other than an array. -/
theorem writtenAs_iff {j : Json} {f : Field} :
    WrittenAs j f ↔ (∀ items, j ≠ .array items) ∧ ofJson j = .ok f := by
  rw [ofJson_eq_ok_iff]
  constructor
  · intro written
    refine ⟨?_, .inl written⟩
    rintro items rfl
    cases written
  · rintro ⟨unlisted, written | listed⟩
    · exact written
    · cases listed with
      | structured => exact absurd rfl (unlisted _)

theorem eq_of_ofJson_eq_error {j : Json} {e : Failure} (h : ofJson j = .error e) :
    e = .shape .noFieldForm := by
  unfold ofJson at h
  split at h
  · cases h
  · split at h <;> cases h
    rfl

end Field

namespace Schema

/-! ## Schemas -/

/-- An object whose members are fields in a given form. The last of equal names counts. -/
inductive WrittenBy (form : Json → Field → Prop) : Json → Schema → Prop
  | object {members : Entries Json} {declared : Entries Field}
    (each : Entries.Related form members declared) :
    WrittenBy form (.object members) (Table.ofList declared)

/-- What is read as a schema is an object of fields, each of them written or listed. -/
theorem ofJson_eq_ok_iff {j : Json} {s : Schema} :
    ofJson j = .ok s ↔ WrittenBy (fun k f => f.WrittenAs k ∨ f.ListedAs k) j s := by
  cases j with
  | object members =>
    rw [ofJson_object, Table.readAll_eq_ok_iff]
    simp only [Field.ofJson_eq_ok_iff]
    constructor
    · rintro ⟨declared, each, rfl⟩
      exact .object each
    · rintro ⟨each⟩
      exact ⟨_, each, rfl⟩
  | _ => exact iff_of_false nofun nofun

/-- Whatever is no schema is refused for its shape. -/
theorem kind_of_ofJson_eq_error {j : Json} {e : Failure} (h : ofJson j = .error e) :
    e.kind = .serialization := by
  cases j with
  | object members =>
    rw [ofJson_object] at h
    obtain ⟨m, -, refused⟩ := Table.exists_of_readAll_eq_error h
    rw [Field.eq_of_ofJson_eq_error refused]
    rfl
  | _ =>
    cases h
    rfl

/-- An object with an array among its members. -/
inductive ListsField : Json → Prop
  | object {members : Entries Json} {name : String} {items : List Json}
    (h : (name, .array items) ∈ members) : ListsField (.object members)

/-- What is written field by field is what is read without any array among the members. -/
theorem writtenBy_writtenAs_iff {j : Json} {s : Schema} :
    WrittenBy Field.WrittenAs j s ↔ ¬ ListsField j ∧ ofJson j = .ok s := by
  have unlisted_iff {members : Entries Json} : ¬ ListsField (.object members) ↔
      ∀ m ∈ members, ∀ items, m.2 ≠ .array items := by
    constructor
    · rintro unlisted ⟨name, _⟩ listed items rfl
      exact unlisted (.object listed)
    · rintro unlisted ⟨listed⟩
      exact unlisted _ listed _ rfl
  have each_iff {members : Entries Json} {declared : Entries Field} :
      Entries.Related Field.WrittenAs members declared ↔ ¬ ListsField (.object members) ∧
        Entries.Related (fun k f => Field.ofJson k = .ok f) members declared := by
    rw [unlisted_iff]
    refine Iff.trans ?_ (List.forall₂_and_left _ _)
    simp only [Entries.Related, Field.writtenAs_iff, and_left_comm]
  constructor
  · rintro ⟨each⟩
    obtain ⟨unlisted, read⟩ := each_iff.mp each
    exact ⟨unlisted, (ofJson_object _).trans (Table.readAll_eq_ok_iff.mpr ⟨_, read, rfl⟩)⟩
  · rintro ⟨unlisted, read⟩
    cases j with
    | object members =>
      rw [ofJson_object, Table.readAll_eq_ok_iff] at read
      obtain ⟨declared, read, rfl⟩ := read
      exact .object (each_iff.mpr ⟨unlisted, read⟩)
    | _ => cases read

/-- The reader of schemas. What it takes is an object of fields, each of them written or listed, and it
refuses the rest for its shape. So it takes just what is written field by field, except that it takes a
field that is listed as well. -/
theorem ofJson_grammar (j : Json) :
    (∀ s, ofJson j = .ok s ↔ WrittenBy (fun k f => f.WrittenAs k ∨ f.ListedAs k) j s) ∧
      ((∃ s, ofJson j = .ok s) ∨ ∃ e, ofJson j = .error e ∧ e.kind = .serialization) ∧
      ((∀ s, ofJson j = .ok s ↔ WrittenBy Field.WrittenAs j s) ↔
        ¬ ((∃ s, ofJson j = .ok s) ∧ ListsField j)) := by
  refine ⟨fun s => ofJson_eq_ok_iff, ?_, ?_⟩
  · cases h : ofJson j with
    | ok s => exact .inl ⟨s, rfl⟩
    | error e => exact .inr ⟨e, rfl, kind_of_ofJson_eq_error h⟩
  · simp only [writtenBy_writtenAs_iff]
    constructor
    · rintro same ⟨⟨s, read⟩, listed⟩
      exact ((same s).mp read).1 listed
    · intro unlisted s
      exact ⟨fun read => ⟨fun listed => unlisted ⟨⟨s, read⟩, listed⟩, read⟩, And.right⟩

/-- A field that is neither a token nor an object is taken. -/
theorem not_forall_ofJson_written :
    ¬ ∀ j, (∃ s, ofJson j = .ok s) ↔ ∃ s, WrittenBy Field.WrittenAs j s := by
  intro h
  obtain ⟨s, written⟩ := (h (.object [("a", .array [.string "number", .boolean true])])).mp ⟨_, rfl⟩
  exact (writtenBy_writtenAs_iff.mp written).1 (.object (List.mem_singleton_self _))

end Schema

end Docstore

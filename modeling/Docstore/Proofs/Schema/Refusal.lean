import Docstore.Proofs.Schema.Acceptance

/-!
# Refusal

Why a schema does not take a document, said without the order in which it looks. `Schema.FirstRefusal`
is one of two things: the refusal of the first entry that is refused, in the order of names; or, when
missing fields are rejected and no entry is refused, the first required field that is missing. It says
the reason and the text of it. `firstRefusal_iff` is the bridge, as `refusal?_eq_none_iff` is for
acceptance.

A validation walks over the entries of tables and stops at the first that it refuses. That is the one
with the least name (`Table.findSome?_entries_eq_some_iff`).
-/

namespace Docstore

variable {α β : Type}

namespace Table

/-- Before an entry stand those with lesser names. -/
theorem mem_before_iff {t : Table α} {before after : Entries α} {name n : String} {a b : α}
    (split_at : t.entries = before ++ (name, a) :: after) (found : t.get? n = some b) :
    (n, b) ∈ before ↔ n < name := by
  obtain ⟨less_before, greater_after⟩ := lt_of_entries_eq split_at
  constructor
  · intro early
    exact less_before (n, b) early
  · intro less
    rcases List.mem_append.mp (split_at ▸ mem_entries_iff.mpr found) with early | late
    · exact early
    · rcases List.mem_cons.mp late with same | late
      · cases same
        exact absurd less (String.lt_irrefl name)
      · exact absurd less (String.lt_asymm (greater_after (n, b) late))

/-- A walk over the entries of a table stops at the least of the names at which it can stop. -/
theorem findSome?_entries_eq_some_iff {t : Table α} {g : String × α → Option β} {b : β} :
    t.entries.findSome? g = some b ↔ ∃ name a, t.get? name = some a ∧ g (name, a) = some b ∧
      ∀ n c, t.get? n = some c → n < name → g (n, c) = none := by
  rw [List.findSome?_eq_some_iff]
  constructor
  · rintro ⟨before, ⟨name, a⟩, after, split_at, stops, passes⟩
    have listed : (name, a) ∈ t.entries := split_at ▸ List.mem_append_right before List.mem_cons_self
    exact ⟨name, a, mem_entries_iff.mp listed, stops,
      fun n c found less => passes (n, c) ((mem_before_iff split_at found).mpr less)⟩
  · rintro ⟨name, a, found, stops, passes⟩
    obtain ⟨before, after, split_at⟩ := List.append_of_mem (mem_entries_iff.mpr found)
    refine ⟨before, (name, a), after, split_at, stops, fun e early => ?_⟩
    have listed : t.get? e.1 = some e.2 :=
      mem_entries_iff.mp (split_at ▸ List.mem_append_left _ early)
    exact passes e.1 e.2 listed ((mem_before_iff split_at listed).mp early)

end Table

/-- The name in messages of a type that is no type of one's own. -/
inductive FieldType.Titled : FieldType → String → Prop
  | string : Titled .string "String"
  | number : Titled .number "Number"
  | boolean : Titled .boolean "Boolean"
  | date : Titled .date "Date"

theorem FieldType.titled_iff {t : FieldType} {title : String} :
    t.Titled title ↔ (∀ token, t ≠ .custom token) ∧ title = t.name := by
  constructor
  · intro titled
    cases titled <;> exact ⟨nofun, rfl⟩
  · rintro ⟨known, rfl⟩
    cases t with
    | custom token => exact absurd rfl (known token)
    | _ => constructor

/-- Why a field does not take a value, and the words for it: the value is a null where there may be
none, the type of the field has no values, or the value is none of its type. -/
inductive Field.Refuses (f : Field) (name : String) (v : Value) : Rejection → String → Prop
  | null (absent : v = .null) (nullable : f.nullable = false) :
    f.Refuses name v (.nullNotAllowed name) (name ++ " cannot be null.")
  | unsupported {token : String} (given : v ≠ .null) (custom : f.type = .custom token) :
    f.Refuses name v (.unsupportedType token name)
      ("Unsupported type " ++ token ++ " and/or field " ++ name ++ ".")
  | wrongType {title : String} (given : v ≠ .null) (titled : f.type.Titled title)
    (other : ¬ f.type.Holds v) :
    f.Refuses name v (.wrongType name title) (name ++ " should be type of " ++ title ++ ".")

theorem Field.refuses_iff {f : Field} {name : String} {v : Value} {reason : Rejection} {text : String} :
    f.Refuses name v reason text ↔ f.refusalOf? name v = some reason ∧ text = reason.message := by
  constructor
  · intro refused
    cases refused with
    | null absent nullable =>
      subst absent
      rw [refusalOf?_null, nullable]
      exact ⟨rfl, rfl⟩
    | unsupported given custom => exact ⟨refusalOf?_custom given custom, rfl⟩
    | wrongType given titled other =>
      obtain ⟨known, rfl⟩ := FieldType.titled_iff.mp titled
      rw [refusalOf?_known given known, if_neg (mt FieldType.holds_iff.mp other)]
      exact ⟨rfl, rfl⟩
  · rintro ⟨refused, rfl⟩
    by_cases given : v = .null
    · subst given
      rw [refusalOf?_null] at refused
      obtain ⟨nullable, same⟩ := Option.ite_none_left_eq_some.mp refused
      cases same
      exact .null rfl (Bool.eq_false_iff.mpr nullable)
    · rcases f.type.custom_or_known with ⟨token, custom⟩ | known
      · rw [refusalOf?_custom given custom] at refused
        cases refused
        exact .unsupported given custom
      · rw [refusalOf?_known given known] at refused
        obtain ⟨other, same⟩ := Option.ite_none_left_eq_some.mp refused
        cases same
        exact .wrongType given (FieldType.titled_iff.mpr ⟨known, rfl⟩) (mt FieldType.holds_iff.mpr other)

namespace Schema

/-- Why a schema does not take an entry, and the words for it: it does not declare the name, or its
field does not take the value. -/
inductive RefusesEntry (s : Schema) (name : String) (v : Value) : Rejection → String → Prop
  | unknown (undeclared : s.get? name = none) :
    s.RefusesEntry name v .unknownField "Field not found in schema."
  | field {f : Field} {reason : Rejection} {text : String} (declared : s.get? name = some f)
    (refused : f.Refuses name v reason text) : s.RefusesEntry name v reason text

/-- The reason that is given for a document that a schema does not take, and the words for it. -/
inductive FirstRefusal (s : Schema) (missing : MissingRequired) (d : Document) :
    Rejection → String → Prop
  | entry {name : String} {v : Value} {reason : Rejection} {text : String}
    (found : d.get? name = some v) (refused : s.RefusesEntry name v reason text)
    (first : ∀ n w, d.get? n = some w → n < name → ∃ f, s.get? n = some f ∧ f.Takes w) :
    s.FirstRefusal missing d reason text
  | missing {name : String} {f : Field} (rejected : missing = .reject) (taken : s.Accepts .ignore d)
    (declared : s.get? name = some f) (required : f.required = true)
    (absent : d.contains name = false)
    (first : ∀ n g, s.get? n = some g → n < name → g.required = true → d.contains n = true) :
    s.FirstRefusal missing d (.required name) (name ++ " is required.")

theorem refusesEntry_iff {s : Schema} {name : String} {v : Value} {reason : Rejection} {text : String} :
    s.RefusesEntry name v reason text ↔
      s.entryRefusal? (name, v) = some reason ∧ text = reason.message := by
  rw [entryRefusal?]
  constructor
  · intro refused
    cases refused with
    | unknown undeclared =>
      rw [undeclared]
      exact ⟨rfl, rfl⟩
    | field declared refused =>
      rw [declared]
      exact Field.refuses_iff.mp refused
  · rintro ⟨refused, rfl⟩
    cases declared : s.get? name with
    | none =>
      rw [declared] at refused
      cases refused
      exact .unknown declared
    | some f =>
      rw [declared] at refused
      exact .field declared (Field.refuses_iff.mpr ⟨refused, rfl⟩)

theorem missingRefusal?_eq_some_iff {d : Document} {name : String} {f : Field} {reason : Rejection} :
    missingRefusal? d (name, f) = some reason ↔
      (f.required = true ∧ d.contains name = false) ∧ .required name = reason := by
  simp [missingRefusal?]

theorem firstRefusal_iff {s : Schema} {missing : MissingRequired} {d : Document} {reason : Rejection}
    {text : String} : s.FirstRefusal missing d reason text ↔
      s.refusal? missing d = some reason ∧ text = reason.message := by
  have taken_iff : d.entries.findSome? s.entryRefusal? = none ↔ s.Accepts .ignore d := by
    rw [← refusal?_eq_none_iff, refusal?, Option.or_none]
  unfold refusal?
  rw [Option.or_eq_some_iff, taken_iff, Table.findSome?_entries_eq_some_iff]
  simp only [entryRefusal?_eq_none_iff]
  constructor
  · intro refused
    cases refused with
    | entry found refused first =>
      obtain ⟨refused, same⟩ := refusesEntry_iff.mp refused
      exact ⟨.inl ⟨_, _, found, refused, first⟩, same⟩
    | missing rejected taken declared required absent first =>
      subst rejected
      refine ⟨.inr ⟨taken, Table.findSome?_entries_eq_some_iff.mpr ⟨_, _, declared, ?_, ?_⟩⟩, rfl⟩
      · exact missingRefusal?_eq_some_iff.mpr ⟨⟨required, absent⟩, rfl⟩
      · intro n g listed less
        exact missingRefusal?_eq_none_iff.mpr (first n g listed less)
  · rintro ⟨⟨name, v, found, refused, first⟩ | ⟨taken, h⟩, rfl⟩
    · exact .entry found (refusesEntry_iff.mpr ⟨refused, rfl⟩) first
    · cases missing with
      | ignore => cases h
      | reject =>
        obtain ⟨name, f, declared, missed, first⟩ := Table.findSome?_entries_eq_some_iff.mp h
        obtain ⟨⟨required, absent⟩, rfl⟩ := missingRefusal?_eq_some_iff.mp missed
        exact .missing rfl taken declared required absent fun n g listed less =>
          missingRefusal?_eq_none_iff.mp (first n g listed less)

/-- Validation gives the first reason, in its words, for every document that it does not let through. -/
theorem validate_eq_error_iff {s : Schema} {missing : MissingRequired} {d : Document} {e : Failure} :
    s.validate missing d = .error e ↔
      ∃ reason, s.FirstRefusal missing d reason e.message ∧ e = .validation reason := by
  have given_iff : s.validate missing d = .error e ↔
      ∃ reason, s.refusal? missing d = some reason ∧ e = .validation reason := by
    unfold validate
    cases s.refusal? missing d <;> simp [eq_comm]
  rw [given_iff]
  refine exists_congr fun reason => and_congr_left ?_
  rintro rfl
  rw [firstRefusal_iff]
  exact (and_iff_left rfl).symm

/-! ## The two policies -/

theorem Accepts.ignoring {s : Schema} {missing : MissingRequired} {d : Document}
    (h : s.Accepts missing d) : s.Accepts .ignore d where
  declared := h.declared
  complete := nofun

/-- Without a policy for missing fields an entry is refused, and then it is refused under any. -/
theorem FirstRefusal.of_ignore {s : Schema} {d : Document} {reason : Rejection} {text : String}
    (h : s.FirstRefusal .ignore d reason text) (missing : MissingRequired) :
    s.FirstRefusal missing d reason text := by
  cases h with
  | entry found refused first => exact .entry found refused first
  | missing rejected => cases rejected

/-- Validation lets through what the schema accepts, and gives the first reason against the rest, in the
words for it; both go by what the declarations of the fields say. The policy for missing fields only adds
a reason where there is no other: what is let through when they are rejected is let through when they are
ignored, and what is refused when they are ignored is refused for the same reason when they are
rejected. -/
theorem validation_decides (s : Schema) (missing : MissingRequired) (d : Document) :
    (s.validate missing d = .ok () ↔ s.Accepts missing d) ∧
      (∀ failure, s.validate missing d = .error failure ↔
        ∃ reason, s.FirstRefusal missing d reason failure.message ∧ failure = .validation reason) ∧
      (∀ f : Field, f.Declares f.type f.required f.nullable) ∧
      (s.validate .reject d = .ok () → s.validate .ignore d = .ok ()) ∧
      ∀ failure, s.validate .ignore d = .error failure → s.validate .reject d = .error failure := by
  refine ⟨validate_eq_ok_iff, fun failure => validate_eq_error_iff, Field.declares, ?_, ?_⟩
  · intro valid
    exact validate_eq_ok_iff.mpr (validate_eq_ok_iff.mp valid).ignoring
  · intro failure failed
    obtain ⟨reason, refused, same⟩ := validate_eq_error_iff.mp failed
    exact validate_eq_error_iff.mpr ⟨reason, refused.of_ignore .reject, same⟩

/-- Of two wrong fields and a missing one, the wrong one with the lesser name is blamed. -/
example :
    let schema : Schema := .ofList [("title", .bare .string),
      ("views", .structured ⟨.number, true, false, none, none⟩)]
    schema.validate .reject (.ofList [("zone", .null), ("title", .boolean true)]) =
      .error (.validation (.wrongType "title" "String")) := rfl

end Schema

end Docstore

import Docstore.Proofs.Model.Delegation

/-!
# Adding with defaults

A model that fills in defaults validates another document than the one it was given. What that comes to
is said here in terms of the given one, for schemas whose defaults pass the check of their own fields
(`Schema.DefaultsPass`).

An entry that was filled in is declared, and its field takes it (`FillsIn.given_or_taken`). So filled in
entries are never refused, wherever their names come among the others, and the first entry that is
refused is the same with and without them (`FillsIn.firstRefusal_ignore_iff`). What they change is which
required fields are missing: those that have a default are not, and the least of the others is the one
that is missed (`Schema.FirstLacking`).
-/

namespace Docstore

namespace Schema

variable {s : Schema} {d e : Document} {name : String} {v : Value} {reason : Rejection} {text : String}

/-- Every default passes the check of its own field. -/
def DefaultsPass (s : Schema) : Prop :=
  ∀ name f v, s.get? name = some f → f.default? = some v → f.refusal? name (some v) = none

/-- A document with the defaults of the fields that it does not have, and otherwise as it was: a value
that is given is kept, null too. -/
structure FillsIn (s : Schema) (d e : Document) : Prop where
  kept : ∀ name v, d.get? name = some v → e.get? name = some v
  filled : ∀ name f, d.get? name = none → s.get? name = some f → e.get? name = f.default?
  undeclared : ∀ name, d.get? name = none → s.get? name = none → e.get? name = none

/-- A field is required, and it has neither a value in a document nor a default. -/
structure Lacks (s : Schema) (d : Document) (name : String) : Prop where
  required : ∃ f, s.get? name = some f ∧ f.required = true ∧ f.default? = none
  absent : d.contains name = false

/-- The first of the fields that are lacking, in the order of names. -/
structure FirstLacking (s : Schema) (d : Document) (name : String) : Prop where
  lacks : s.Lacks d name
  least : ∀ n, s.Lacks d n → name ≤ n

theorem not_refusesEntry_of_takes {f : Field} (declared : s.get? name = some f) (taken : f.Takes v) :
    ¬ s.RefusesEntry name v reason text := by
  intro refused
  have passes : s.entryRefusal? (name, v) = none := entryRefusal?_eq_none_iff.mpr ⟨f, declared, taken⟩
  rw [(refusesEntry_iff.mp refused).1] at passes
  cases passes

theorem contains_eq_false_iff : d.contains name = false ↔ d.get? name = none := by
  rw [Table.contains, Option.isSome_eq_false_iff, Option.isNone_iff_eq_none]

/-! ## Filling in -/

theorem fillsIn_iff : s.FillsIn d e ↔
    ∀ name, e.get? name = (d.get? name).or ((s.get? name).bind Field.default?) := by
  constructor
  · intro h name
    cases given : d.get? name with
    | some v => exact h.kept name v given
    | none =>
      cases declared : s.get? name with
      | some f => exact h.filled name f given declared
      | none => exact h.undeclared name given declared
  · intro h
    refine ⟨fun name v given => ?_, fun name f given declared => ?_, fun name given declared => ?_⟩
    · rw [h, given, Option.some_or]
    · rw [h, given, Option.none_or, declared, Option.bind_some]
    · rw [h, given, Option.none_or, declared, Option.bind_none]

namespace FillsIn

/-- An entry of the filled in document was given, or its field takes it. -/
theorem given_or_taken (h : s.FillsIn d e) (pass : s.DefaultsPass) (found : e.get? name = some v) :
    d.get? name = some v ∨ ∃ f, s.get? name = some f ∧ f.Takes v := by
  cases given : d.get? name with
  | some w => exact .inl ((h.kept name w given).symm.trans found)
  | none =>
    cases declared : s.get? name with
    | none =>
      rw [h.undeclared name given declared] at found
      cases found
    | some f =>
      rw [h.filled name f given declared] at found
      exact .inr ⟨f, rfl, Field.refusalOf?_eq_none_iff.mp (pass name f v declared found)⟩

theorem accepts_ignore_iff (h : s.FillsIn d e) (pass : s.DefaultsPass) :
    s.Accepts .ignore e ↔ s.Accepts .ignore d := by
  constructor
  · intro accepted
    exact ⟨fun name v given => accepted.declared name v (h.kept name v given), nofun⟩
  · intro accepted
    refine ⟨fun name v found => ?_, nofun⟩
    rcases h.given_or_taken pass found with given | taken
    · exact accepted.declared name v given
    · exact taken

/-- A required field is missing in the filled in document if it was lacking before. -/
theorem lacks_iff (h : s.FillsIn d e) :
    s.Lacks d name ↔ ∃ f, s.get? name = some f ∧ f.required = true ∧ e.contains name = false := by
  constructor
  · rintro ⟨⟨f, declared, required, default⟩, absent⟩
    refine ⟨f, declared, required, contains_eq_false_iff.mpr ?_⟩
    rw [h.filled name f (contains_eq_false_iff.mp absent) declared, default]
  · rintro ⟨f, declared, required, absent⟩
    have absent : e.get? name = none := contains_eq_false_iff.mp absent
    have given : d.get? name = none := by
      refine Option.eq_none_iff_forall_ne_some.mpr fun v given => ?_
      rw [h.kept name v given] at absent
      cases absent
    exact ⟨⟨f, declared, required, (h.filled name f given declared).symm.trans absent⟩,
      contains_eq_false_iff.mpr given⟩

theorem accepts_reject_iff (h : s.FillsIn d e) (pass : s.DefaultsPass) :
    s.Accepts .reject e ↔ s.Accepts .ignore d ∧ ∀ name, ¬ s.Lacks d name := by
  rw [← h.accepts_ignore_iff pass]
  simp only [h.lacks_iff]
  constructor
  · intro accepted
    refine ⟨accepted.ignoring, ?_⟩
    rintro name ⟨f, declared, required, absent⟩
    rw [accepted.complete rfl name f declared required] at absent
    cases absent
  · rintro ⟨accepted, none_missing⟩
    refine ⟨accepted.declared, fun _ name f declared required => ?_⟩
    exact Bool.of_not_eq_false fun absent => none_missing name ⟨f, declared, required, absent⟩

/-- The first entry that is refused is one that was given. -/
theorem firstRefusal_ignore_iff (h : s.FillsIn d e) (pass : s.DefaultsPass) :
    s.FirstRefusal .ignore e reason text ↔ s.FirstRefusal .ignore d reason text := by
  constructor
  · intro refused
    cases refused with
    | missing rejected => cases rejected
    | @entry name v _ _ found refused first =>
      rcases h.given_or_taken pass found with given | ⟨f, declared, taken⟩
      · exact .entry given refused fun n w given => first n w (h.kept n w given)
      · exact absurd refused (not_refusesEntry_of_takes declared taken)
  · intro refused
    cases refused with
    | missing rejected => cases rejected
    | entry given refused first =>
      refine .entry (h.kept _ _ given) refused fun n w found less => ?_
      rcases h.given_or_taken pass found with given | taken
      · exact first n w given less
      · exact taken

/-- A missing field is blamed if no entry is refused, and then it is the first that was lacking. -/
theorem firstRefusal_reject_iff (h : s.FillsIn d e) (pass : s.DefaultsPass) :
    s.FirstRefusal .reject e reason text ↔ s.FirstRefusal .ignore d reason text ∨
      s.Accepts .ignore d ∧ ∃ name, s.FirstLacking d name ∧ reason = .required name ∧
        text = name ++ " is required." := by
  rw [← h.firstRefusal_ignore_iff pass, ← h.accepts_ignore_iff pass]
  constructor
  · intro refused
    cases refused with
    | entry found refused first => exact .inl (.entry found refused first)
    | @missing name f _ taken declared required absent first =>
      refine .inr ⟨taken, name, ⟨h.lacks_iff.mpr ⟨f, declared, required, absent⟩, ?_⟩, rfl, rfl⟩
      intro n lacks
      obtain ⟨g, declared, required, absent⟩ := h.lacks_iff.mp lacks
      refine String.not_lt.mp fun less => ?_
      rw [first n g declared less required] at absent
      cases absent
  · rintro (refused | ⟨taken, name, ⟨lacks, least⟩, rfl, rfl⟩)
    · exact refused.of_ignore .reject
    · obtain ⟨f, declared, required, absent⟩ := h.lacks_iff.mp lacks
      refine .missing rfl taken declared required absent fun n g declared less required => ?_
      refine Bool.of_not_eq_false fun absent => ?_
      exact String.not_lt.mpr (least n (h.lacks_iff.mpr ⟨g, declared, required, absent⟩)) less

end FillsIn

end Schema

namespace Model

variable {m : Model} {d e : Document}

theorem completes_iff_fillsIn (filling : m.options.applyDefaults = true) :
    m.Completes d e ↔ m.schema.FillsIn d e := by
  rw [Schema.fillsIn_iff, Completes, filling]
  rfl

/-- With defaults that pass their own checks, a model that rejects missing fields and fills in defaults
asks for a document to be created just if its schema takes the document as it was given, missing fields
aside, and every required field is given or has a default; what it asks to be created is that document
with the defaults of the fields that were not given. Otherwise it fails for the reason that the schema
has against the document as it was given, or else because the first field that is lacking is required. -/
theorem add_with_defaults {m : Model} {name : CollectionName} (named : m.name? = some name)
    (options : m.options = ⟨.reject, true⟩) (pass : m.schema.DefaultsPass) (d : Document)
    (id? : Option String) :
    ∃ e, m.schema.FillsIn d e ∧
      (∀ call, m.call (.add d id?) = .ok call ↔
        (m.schema.validate .ignore d = .ok () ∧ ∀ n, ¬ m.schema.Lacks d n) ∧
          call = .create name.text e id?) ∧
      ∀ failure, m.call (.add d id?) = .error failure ↔
        m.schema.validate .ignore d = .error failure ∨
          m.schema.validate .ignore d = .ok () ∧ ∃ n, m.schema.FirstLacking d n ∧
            failure = .validation (.required n) ∧ failure.message = n ++ " is required." := by
  have filling : m.options.applyDefaults = true := congrArg Options.applyDefaults options
  have rejecting : m.options.missingRequired = .reject := congrArg Options.missingRequired options
  have completes : m.Completes d (m.completed d) := completes_iff.mpr rfl
  have fills : m.schema.FillsIn d (m.completed d) := (completes_iff_fillsIn filling).mp completes
  refine ⟨m.completed d, fills, fun call => ?_, fun failure => ?_⟩
  · rw [call_eq_ok_iff_asksIn named, AsksIn, rejecting, Schema.validate_eq_ok_iff,
      ← fills.accepts_reject_iff pass]
    constructor
    · rintro ⟨e, completes, accepted, asked⟩
      obtain rfl := completes_iff.mp completes
      exact ⟨accepted, asked⟩
    · rintro ⟨accepted, asked⟩
      exact ⟨m.completed d, completes, accepted, asked⟩
  · rw [call_eq_error_iff_breaks named, Breaks, rejecting, Schema.validate_eq_error_iff,
      Schema.validate_eq_ok_iff]
    constructor
    · rintro ⟨e, reason, completes, refused, rfl⟩
      obtain rfl := completes_iff.mp completes
      rcases (fills.firstRefusal_reject_iff pass).mp refused with refused | ⟨taken, n, first, rfl, text⟩
      · exact .inl ⟨reason, refused, rfl⟩
      · exact .inr ⟨taken, n, first, rfl, text⟩
    · rintro (⟨reason, refused, rfl⟩ | ⟨taken, n, first, rfl, text⟩)
      · have refused := (fills.firstRefusal_reject_iff pass).mpr (.inl refused)
        exact ⟨m.completed d, reason, completes, refused, rfl⟩
      · have refused := (fills.firstRefusal_reject_iff pass).mpr (.inr ⟨taken, n, first, rfl, text⟩)
        exact ⟨m.completed d, .required n, completes, refused, rfl⟩

/-- Jobs are open unless something else is given, may be given no owner, and have to be given a title. -/
def jobModel : Model where
  name? := some ⟨"jobs", by decide⟩
  schema := .ofList [("open", .structured ⟨.boolean, true, false, some (.boolean true), none⟩),
    ("owner", .structured ⟨.string, false, true, some (.string "nobody"), none⟩),
    ("title", .structured ⟨.string, true, false, none, none⟩)]
  options := .standard

theorem add_with_defaults_job :
    (∃ e : Document, jobModel.call (.add (.ofList [("owner", .null), ("title", .string "sweep")]) none) =
        .ok (.create "jobs" e none) ∧
      e.get? "open" = some (.boolean true) ∧ e.get? "owner" = some .null) ∧
      jobModel.call (.add (.ofList [("owner", .null)]) none) =
        .error (.validation (.required "title")) := by
  have pass : jobModel.schema.DefaultsPass := by
    intro name f v declared default
    have listed : (name, f) ∈ jobModel.schema.entries := Table.mem_entries_iff.mpr declared
    rcases listed with _ | ⟨_, _ | ⟨_, _ | ⟨_, listed⟩⟩⟩
    · cases default
      rfl
    · cases default
      rfl
    · cases default
    · cases listed
  -- Only the title has neither a value nor a default, and only where it is not given.
  have lacks_title {d : Document} {n : String} (lacks : jobModel.schema.Lacks d n) : n = "title" := by
    obtain ⟨⟨f, declared, -, default⟩, -⟩ := lacks
    have listed : (n, f) ∈ jobModel.schema.entries := Table.mem_entries_iff.mpr declared
    rcases listed with _ | ⟨_, _ | ⟨_, _ | ⟨_, listed⟩⟩⟩
    · cases default
    · cases default
    · rfl
    · cases listed
  constructor
  · obtain ⟨e, fills, asks, -⟩ := add_with_defaults rfl rfl pass
      (.ofList [("owner", .null), ("title", .string "sweep")]) none
    have opened := fills.filled "open" _ rfl rfl
    refine ⟨e, (asks _).mpr ⟨⟨rfl, fun n lacks => ?_⟩, rfl⟩, opened, fills.kept _ _ rfl⟩
    obtain rfl := lacks_title lacks
    exact absurd lacks.absent (by decide)
  · obtain ⟨e, -, -, fails⟩ := add_with_defaults rfl rfl pass (.ofList [("owner", .null)]) none
    refine (fails _).mpr (.inr ⟨rfl, "title", ⟨⟨⟨_, rfl, rfl, rfl⟩, rfl⟩, fun n lacks => ?_⟩, rfl, rfl⟩)
    obtain rfl := lacks_title lacks
    exact String.le_refl _

end Model

end Docstore

import Docstore.Proofs.Model.Acceptance

/-!
# Relaxed schemas

A schema relaxes another if it asks nothing of a document that the other does not ask. It keeps every
field with its type, whether bare or structured; it requires none that was not required, and takes null
wherever null was taken; and the fields that it adds are not required. To add such a field is to relax
(`Schema.relaxes_insert`), and relaxations follow one another (`Schema.Relaxes.trans`).

What a schema accepts, its relaxations accept (`Schema.Accepts.relax`): a field that has the same type
and takes null no less takes the same values, and a required field was required before. So a collection
may be given a relaxed schema while it is in use: its documents are accepted already, and the requests
that follow keep them so (`Memory.allAccepted_after_relaxing`).
-/

namespace Docstore

/-! ## Fields -/

/-- A field asks nothing that another does not ask. -/
structure Field.Relaxes (g f : Field) : Prop where
  type : g.type = f.type
  required : g.required = true → f.required = true
  nullable : f.nullable = true → g.nullable = true

theorem Field.Relaxes.refl (f : Field) : f.Relaxes f := ⟨rfl, id, id⟩

theorem Field.Relaxes.trans {f g h : Field} (later : h.Relaxes g) (first : g.Relaxes f) :
    h.Relaxes f where
  type := later.type.trans first.type
  required := fun required => first.required (later.required required)
  nullable := fun nullable => later.nullable (first.nullable nullable)

theorem Field.Takes.relax {f g : Field} {v : Value} (taken : f.Takes v) (h : g.Relaxes f) :
    g.Takes v := by
  cases taken with
  | null nullable => exact .null (h.nullable nullable)
  | held held => exact .held (h.type ▸ held)

/-! ## Schemas -/

namespace Schema

variable {s t u : Schema} {missing : MissingRequired} {d : Document}

/-- A schema asks nothing of a document that another does not ask. -/
structure Relaxes (t s : Schema) : Prop where
  kept : ∀ name f, s.get? name = some f → ∃ g, t.get? name = some g ∧ g.Relaxes f
  added : ∀ name g, t.get? name = some g → s.get? name = none → g.required = false

theorem Relaxes.trans (later : u.Relaxes t) (first : t.Relaxes s) : u.Relaxes s where
  kept := by
    intro name f declared
    obtain ⟨g, kept, relaxed⟩ := first.kept name f declared
    obtain ⟨h, kept', relaxed'⟩ := later.kept name g kept
    exact ⟨h, kept', relaxed'.trans relaxed⟩
  added := by
    intro name h declared fresh
    cases between : t.get? name with
    | none => exact later.added name h declared between
    | some g =>
      obtain ⟨h', kept, relaxed⟩ := later.kept name g between
      obtain rfl := Option.some.inj (kept.symm.trans declared)
      -- The field came with the first step, which required none of what it added.
      refine Bool.eq_false_iff.mpr fun required => ?_
      exact Bool.eq_false_iff.mp (first.added name g between fresh) (relaxed.required required)

/-- A field that a schema does not have may be added, if it is not required. -/
theorem relaxes_insert {name : String} {g : Field} (fresh : s.get? name = none)
    (optional : g.required = false) : Relaxes (s.insert name g) s where
  kept := by
    intro n f declared
    have other : n ≠ name := by
      rintro rfl
      rw [fresh] at declared
      cases declared
    exact ⟨f, by rw [Table.get?_insert, if_neg other, declared], .refl f⟩
  added := by
    intro n h declared undeclared
    rw [Table.get?_insert] at declared
    split at declared
    · cases declared
      exact optional
    · rw [undeclared] at declared
      cases declared

/-- What a schema accepts, under a policy for missing fields, its relaxations accept. -/
theorem Accepts.relax (accepted : s.Accepts missing d) (h : t.Relaxes s) : t.Accepts missing d where
  declared := by
    intro name v found
    obtain ⟨f, declared, taken⟩ := accepted.declared name v found
    obtain ⟨g, kept, relaxed⟩ := h.kept name f declared
    exact ⟨g, kept, taken.relax relaxed⟩
  complete := by
    intro rejected name g declared required
    cases before : s.get? name with
    | none =>
      rw [h.added name g declared before] at required
      cases required
    | some f =>
      obtain ⟨g', kept, relaxed⟩ := h.kept name f before
      obtain rfl := Option.some.inj (kept.symm.trans declared)
      exact accepted.complete rejected name f before (relaxed.required required)

/-- A document that is valid stays valid when the schema is relaxed, under either policy for missing
fields. -/
theorem validate_relaxed {s t : Schema} (relaxes : t.Relaxes s) (missing : MissingRequired)
    (d : Document) (valid : s.validate missing d = .ok ()) : t.validate missing d = .ok () :=
  validate_eq_ok_iff.mpr ((validate_eq_ok_iff.mp valid).relax relaxes)

/-- Notes have a text, and a mark that must be given but may be null. -/
def noteSchema : Schema :=
  .ofList [("mark", .structured ⟨.date, true, true, none, none⟩), ("text", .bare .string)]

/-- Notes whose mark may be left out, whose text may be null, and which may have an owner. -/
def looseNoteSchema : Schema :=
  .ofList [("mark", .structured ⟨.date, false, true, none, none⟩),
    ("owner", .structured ⟨.number, false, false, none, some "users"⟩),
    ("text", .structured ⟨.string, false, true, some .null, none⟩)]

theorem validate_relaxed_note :
    looseNoteSchema.Relaxes noteSchema ∧
      noteSchema.validate .reject (.ofList [("mark", .null), ("text", .string "hi")]) = .ok () ∧
      looseNoteSchema.validate .reject (.ofList [("mark", .null), ("text", .string "hi")]) = .ok () := by
  have relaxes : looseNoteSchema.Relaxes noteSchema := by
    constructor
    · intro name f declared
      have listed : (name, f) ∈ noteSchema.entries := Table.mem_entries_iff.mpr declared
      rcases listed with _ | ⟨_, _ | ⟨_, listed⟩⟩
      · exact ⟨_, rfl, rfl, nofun, id⟩
      · exact ⟨_, rfl, rfl, nofun, nofun⟩
      · cases listed
    · intro name g declared _
      have listed : (name, g) ∈ looseNoteSchema.entries := Table.mem_entries_iff.mpr declared
      rcases listed with _ | ⟨_, _ | ⟨_, _ | ⟨_, listed⟩⟩⟩
      · rfl
      · rfl
      · rfl
      · cases listed
  exact ⟨relaxes, rfl, validate_relaxed relaxes .reject _ rfl⟩

end Schema

/-! ## Collections in use -/

/-- A collection that a schema accepts is accepted by its relaxations. -/
theorem Store.AllAccepted.relax {store : Store} {collection : String} {s t : Schema}
    {missing : MissingRequired} (h : store.AllAccepted collection s missing) (relaxes : t.Relaxes s) :
    store.AllAccepted collection t missing :=
  fun id d found => (h id d found).relax relaxes

/-- Models with a relaxed schema keep a collection accepted that was filled under the schema before. -/
theorem Memory.allAccepted_after_relaxing {newId : Nat → String} {collection : String} {s t : Schema}
    {options : Options} {rs : List Request} {m : Memory} (relaxes : t.Relaxes s)
    (h : m.store.AllAccepted collection s options.missingRequired)
    (bound : ∀ r ∈ rs, r.model.collection = .ok collection →
      r.model.schema = t ∧ r.model.options = options) :
    (Request.performAll (adapter newId) rs m).store.AllAccepted collection t options.missingRequired :=
  allAccepted_performAll (h.relax relaxes) bound

end Docstore

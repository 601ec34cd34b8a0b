import Docstore.Filter.Translation
import Docstore.Proofs.Bson.Separation
import Docstore.Proofs.Result
import Docstore.Proofs.Table.Reading
import Docstore.Query.Selection

/-!
# Sort keys that come again

A sort key that comes again changes nothing in memory: documents that differ in its field were told
apart when it first came (`Document.compareBy_firsts`). In the sort document for a database it keeps
the place of the first one and takes the direction of the last (`FilterQuery.sortNames_eq_putAll`). So
the names stand in the right order, and the directions may be wrong.

`Entries.firsts` is the sort that is meant, each name once, as it first came. The sort document is this
one, and sorts as memory does, exactly if every name comes with the direction at the end that it had at
first (`FilterQuery.sort_eq_firsts_iff`): two documents that only differ in the field of a name show
its direction (`Document.compareBy_only`).
-/

namespace Docstore

namespace Entries

variable {α : Type}

/-- Entries but for those whose name came before. -/
def firsts : Entries α → Entries α
  | [] => []
  | e :: es => e :: (firsts es).filter fun f => f.1 != e.1

/-- Every name comes with the value at the end that it has at first. -/
def EndsAgree (es : Entries α) : Prop := ∀ n, get? n es.reverse = get? n es

theorem get?_firsts (es : Entries α) (n : String) : get? n (firsts es) = get? n es := by
  induction es with
  | nil => rfl
  | cons e es ih =>
    rw [firsts, get?, get?]
    split
    · rfl
    · next other =>
      rw [← ih]
      clear ih
      induction firsts es with
      | nil => rfl
      | cons f fs ih => grind [get?]

theorem firsts_eq_nil_iff {es : Entries α} : firsts es = [] ↔ es = [] := by
  cases es with
  | nil => exact iff_of_true rfl rfl
  | cons e es => exact iff_of_false nofun nofun

theorem nodup_names_firsts (es : Entries α) : (names (firsts es)).Nodup := by
  induction es with
  | nil => exact List.nodup_nil
  | cons e es ih =>
    refine List.nodup_cons.mpr ⟨?_, ih.sublist (List.filter_sublist.map Prod.fst)⟩
    simp [List.mem_map, List.mem_filter]

/-- Putting entries where others are adds, in their order, the names that are new. -/
theorem names_putOnto (fs es : Entries α) :
    names (putOnto fs es) = names fs ++ names ((firsts es).filter fun e => e.1 ∉ names fs) := by
  induction es generalizing fs with
  | nil => exact (List.append_nil _).symm
  | cons e es ih =>
    rw [putOnto_cons, ih, names_put, firsts]
    by_cases again : e.1 ∈ names fs
    · rw [if_pos again, List.filter_cons_of_neg (by simpa using again), List.filter_filter]
      refine congrArg (fun new => names fs ++ names new) (List.filter_congr fun f _ => ?_)
      by_cases there : f.1 ∈ names fs
      · simp [there]
      · have other : f.1 ≠ e.1 := fun same => there (same ▸ again)
        simp [there, other]
    · rw [if_neg again, List.filter_cons_of_pos (by simpa using again), List.filter_filter,
        List.append_assoc]
      refine congrArg (fun new => names fs ++ (e.1 :: names new)) (List.filter_congr fun f _ => ?_)
      rw [Bool.eq_iff_iff]
      simp

/-- Entries put one after another stand in the order in which their names first came. -/
theorem names_putAll (es : Entries α) : names (putAll es) = names (firsts es) := by
  have h := names_putOnto [] es
  rw [List.filter_eq_self.mpr fun e _ => by simp] at h
  exact h

/-- Entries whose names do not come twice are known by their names and by what they give to these. -/
theorem eq_of_names_eq {es fs : Entries α} (distinct : (names es).Nodup)
    (same : names es = names fs) (h : ∀ n, get? n es = get? n fs) : es = fs := by
  induction es generalizing fs with
  | nil => exact (List.map_eq_nil_iff.mp same.symm).symm
  | cons e es ih =>
    cases fs with
    | nil => cases same
    | cons f fs =>
      obtain ⟨name, names⟩ := List.cons.inj same
      obtain ⟨new, distinct⟩ := List.nodup_cons.mp distinct
      have value : e.2 = f.2 := by simpa [get?, name] using h e.1
      have rest : es = fs := by
        refine ih distinct names fun n => ?_
        by_cases first : n = e.1
        · rw [first, get?_eq_none_iff.mpr new, get?_eq_none_iff.mpr fun there => new (names ▸ there)]
        · simpa [get?, first, name ▸ first] using h n
      rw [Prod.ext name value, rest]

/-- Entries put one after another are those that first came exactly if each name ends as it began. -/
theorem putAll_eq_firsts_iff {es : Entries α} : putAll es = firsts es ↔ EndsAgree es := by
  constructor
  · intro same n
    rw [← get?_putAll, same, get?_firsts]
  · intro agree
    refine eq_of_names_eq ?_ (names_putAll es) fun n => ?_
    · exact (names_putAll es).symm ▸ nodup_names_firsts es
    · rw [get?_putAll, get?_firsts, agree n]

end Entries

/-! ## In memory -/

namespace Document

variable {a b : Document}

/-- Keys of a field in which documents tie do not count. -/
theorem compareBy_filter {field : String}
    (tie : (a.sortValue field).totalCompare (b.sortValue field) = .eq)
    (keys : List (String × Direction)) :
    compareBy (keys.filter fun k => k.1 != field) a b = compareBy keys a b := by
  induction keys with
  | nil => rfl
  | cons k keys ih =>
    by_cases same : k.1 = field
    · have tied : k.2.apply ((a.sortValue k.1).totalCompare (b.sortValue k.1)) = .eq := by
        rw [same, tie]
        cases k.2 <;> rfl
      rw [List.filter_cons_of_neg (by simpa using same), ih, compareBy, tied]
      rfl
    · rw [List.filter_cons_of_pos (by simpa using same), compareBy, ih, compareBy]

/-- A sort key that comes again changes nothing. -/
theorem compareBy_firsts (keys : List (String × Direction)) (a b : Document) :
    compareBy (Entries.firsts keys) a b = compareBy keys a b := by
  induction keys with
  | nil => rfl
  | cons k keys ih =>
    rw [Entries.firsts, compareBy, compareBy, ← ih]
    cases first : (a.sortValue k.1).totalCompare (b.sortValue k.1) with
    | eq => rw [compareBy_filter first]
    | lt | gt => cases k.2 <;> rfl

/-- A document with one field. -/
def single (field : String) (v : Value) : Document := Table.insert ∅ field v

theorem sortValue_single (field : String) (v : Value) (n : String) :
    (single field v).sortValue n = if n = field then v else .null := by
  rw [sortValue, single, Table.get?_insert]
  split <;> rfl

/-- Where documents differ in one field only, the first key with its name decides. -/
theorem compareBy_only (field : String) (keys : List (String × Direction)) :
    compareBy keys ∅ (single field (.boolean true)) =
      ((Entries.get? field keys).map (·.apply .lt)).getD .eq := by
  induction keys with
  | nil => rfl
  | cons k keys ih =>
    rw [compareBy, sortValue_single, Entries.get?, ih]
    by_cases same : k.1 = field
    · rw [if_pos same, if_pos same.symm]
      cases k.2 <;> rfl
    · rw [if_neg same, if_neg (Ne.symm same)]
      cases k.2 <;> rfl

/-- The order by sort keys shows the direction of the first key with a name. -/
theorem get?_eq_of_compareBy_eq {keys others : List (String × Direction)}
    (same : ∀ a b, compareBy keys a b = compareBy others a b) (field : String) :
    Entries.get? field keys = Entries.get? field others := by
  have shown := same ∅ (single field (.boolean true))
  rw [compareBy_only, compareBy_only] at shown
  revert shown
  rcases Entries.get? field keys with _ | _ | _ <;>
    rcases Entries.get? field others with _ | _ | _ <;> decide

end Document

/-! ## In a database -/

namespace FilterQuery

variable {cs : List Constraint} {q : FilterQuery}

/-- With names that are their own escapes, sort keys are put one after another as they are. -/
theorem sortNames_eq_putAll (storable : ∀ k ∈ Constraint.sortKeys cs, FieldName.Storable k.1) :
    sortNames cs = Entries.putAll (Constraint.sortKeys cs) := by
  rw [sortNames, Entries.putAll]
  generalize Constraint.sortKeys cs = keys at storable ⊢
  generalize ([] : Entries Direction) = names
  induction keys generalizing names with
  | nil => rfl
  | cons k keys ih =>
    obtain ⟨first, rest⟩ := List.forall_mem_cons.mp storable
    rw [List.foldl_cons, List.foldl_cons, FieldName.escape_of_storable first, ih rest]

theorem sort_of_ofConstraints (put : ofConstraints cs = .ok q) : q.sort = sortNames cs := by
  obtain ⟨fs, -, made⟩ := bind_eq_ok_iff.mp put
  cases made
  rfl

/-- There is a sort document if there is a sort key. -/
theorem sortBson?_eq_none_iff : q.sortBson? = none ↔ q.sort = [] := by
  rw [sortBson?]
  split
  · next empty => exact iff_of_true rfl (List.isEmpty_iff.mp empty)
  · next some_key => exact iff_of_false nofun fun empty => some_key (List.isEmpty_iff.mpr empty)

/-- What stands for a direction in a sort document. -/
inductive DirectionWritten : Direction → Bson → Prop
  | ascending : DirectionWritten .ascending (.int32 1)
  | descending : DirectionWritten .descending (.int32 (-1))

/-- The sort document has the names and directions of the sort, in their order. -/
theorem related_of_sortBson? {document : BsonDocument} (h : q.sortBson? = some document) :
    Entries.Related DirectionWritten q.sort document := by
  rw [sortBson?] at h
  obtain ⟨-, same⟩ := Option.ite_none_left_eq_some.mp h
  cases same
  refine List.forall₂_map_right_iff.mpr (List.forall₂_same.mpr fun e _ => ⟨rfl, ?_⟩)
  cases e.2 with
  | ascending => exact .ascending
  | descending => exact .descending

/-- The sort document has the names of the sort keys once each, in the order in which they first came,
and each with the direction it came with last. It is the sort that is meant, and sorts documents as a
store in memory does, exactly if every name ends with the direction it first had. -/
theorem sort_eq_firsts_iff (storable : ∀ k ∈ Constraint.sortKeys cs, FieldName.Storable k.1)
    (put : ofConstraints cs = .ok q) :
    (q.sortBson? = none ↔ Constraint.sortKeys cs = []) ∧
      (∀ document, q.sortBson? = some document → Entries.Related DirectionWritten q.sort document) ∧
      Entries.names q.sort = Entries.names (Entries.firsts (Constraint.sortKeys cs)) ∧
      (∀ n, Entries.get? n q.sort = Entries.get? n (Constraint.sortKeys cs).reverse) ∧
      (q.sort = Entries.firsts (Constraint.sortKeys cs) ↔
        Entries.EndsAgree (Constraint.sortKeys cs)) ∧
      ((∀ a b, Document.compareBy q.sort a b = Document.compareBy (Constraint.sortKeys cs) a b) ↔
        Entries.EndsAgree (Constraint.sortKeys cs)) := by
  have put_all : q.sort = Entries.putAll (Constraint.sortKeys cs) :=
    (sort_of_ofConstraints put).trans (sortNames_eq_putAll storable)
  have names : Entries.names q.sort = Entries.names (Entries.firsts (Constraint.sortKeys cs)) := by
    rw [put_all, Entries.names_putAll]
  refine ⟨?_, fun document => related_of_sortBson?, names, fun n => ?_, ?_, ?_⟩
  · have length : q.sort.length = (Entries.firsts (Constraint.sortKeys cs)).length := by
      simpa using congrArg List.length names
    rw [sortBson?_eq_none_iff, ← List.length_eq_zero_iff, length, List.length_eq_zero_iff,
      Entries.firsts_eq_nil_iff]
  · rw [put_all, Entries.get?_putAll]
  · rw [put_all, Entries.putAll_eq_firsts_iff]
  · constructor
    · intro same n
      rw [← Document.get?_eq_of_compareBy_eq same n, put_all, Entries.get?_putAll]
    · intro agree a b
      rw [put_all, Entries.putAll_eq_firsts_iff.mpr agree, Document.compareBy_firsts]

/-- Sort keys of which one comes again, the other way round. -/
def titledTwice : List Constraint :=
  [.orderBy "title" .ascending, .orderBy "views" .descending, .orderBy "title" .descending]

/-- What a database is asked for sort keys of which one comes again. -/
def titledTwiceQuery : FilterQuery :=
  ⟨.allOf [.field "title" [.present], .field "views" [.present], .field "title" [.present]],
    [("title", .descending), ("views", .descending)]⟩

theorem sort_eq_firsts_iff_titledTwice :
    ofConstraints titledTwice = .ok titledTwiceQuery ∧
      titledTwiceQuery.sort ≠ Entries.firsts (Constraint.sortKeys titledTwice) ∧
      ¬ ∀ a b, Document.compareBy titledTwiceQuery.sort a b =
        Document.compareBy (Constraint.sortKeys titledTwice) a b := by
  have put : ofConstraints titledTwice = .ok titledTwiceQuery := rfl
  have turned : ¬ Entries.EndsAgree (Constraint.sortKeys titledTwice) := fun agree =>
    absurd (agree "title") (by decide)
  obtain ⟨-, -, -, -, meant, sorts⟩ := sort_eq_firsts_iff (by decide) put
  exact ⟨put, mt meant.mp turned, mt sorts.mp turned⟩

/-- It is not so that the first direction of each name counts: the last one does. -/
theorem not_forall_sort_eq_firsts :
    ¬ ∀ (cs : List Constraint) (q : FilterQuery), (∀ c ∈ cs, FieldName.Plain c.field) →
        ofConstraints cs = .ok q →
      (q.sortBson? = none ↔ Constraint.sortKeys cs = []) ∧
        q.sort = Entries.firsts (Constraint.sortKeys cs) ∧
        ∀ a b, Document.compareBy q.sort a b = Document.compareBy (Constraint.sortKeys cs) a b := by
  intro h
  obtain ⟨-, same, -⟩ := h [.orderBy "a" .ascending, .orderBy "a" .descending]
    ⟨.allOf [.field "a" [.present], .field "a" [.present]], [("a", .descending)]⟩ (by decide +kernel) rfl
  exact absurd same (by decide)

end FilterQuery

end Docstore

import Docstore.Bson.Stored
import Docstore.Proofs.Bson.FieldName

/-!
# Looking into a stored document

Storing a document puts its fields one after another under their escaped names. `Entries.get?_putAll`
says what is found after any such series, and `Document.get?_toBson` what that means for names that
are their own escapes: the stored document has the value of the field, in its BSON form, or no member
of that name. Such a name is found with the value of its field whatever other names the document
has (`Document.get?_toBson_of_storable`).
-/

namespace Docstore

namespace Entries

variable {α : Type}

/-- After entries are put one after another, a name has the last value that they give it. -/
theorem get?_putAll (es : Entries α) (n : String) : get? n (putAll es) = get? n es.reverse := by
  have after_others : ∀ fs : Entries α,
      get? n (es.foldl (fun fs e => put e.1 e.2 fs) fs) = (get? n es.reverse).or (get? n fs) := by
    induction es with
    | nil => exact fun fs => rfl
    | cons e es ih =>
      intro fs
      rw [List.foldl_cons, ih, get?_put, List.reverse_cons, get?_append]
      cases get? n es.reverse <;> by_cases h : n = e.1 <;> simp [get?, h]
  rw [putAll, after_others]
  exact Option.or_none

theorem get?_map {β : Type} (f : α → β) (es : Entries α) (n : String) :
    get? n (es.map fun e => (e.1, f e.2)) = (get? n es).map f := by
  induction es with
  | nil => rfl
  | cons e es ih => by_cases h : n = e.1 <;> simp [get?, h, ih]

end Entries

namespace Document

/-- With names that are their own escapes, a document is stored entry by entry. -/
theorem escaped_entries {d : Document} (names : ∀ n ∈ d.keys, FieldName.Storable n) :
    (d.entries.map fun e => (FieldName.escape e.1, e.2.toBson)) =
      d.entries.map fun e => (e.1, e.2.toBson) := by
  refine List.map_congr_left fun e he => ?_
  rw [FieldName.escape_of_storable (names e.1 (List.mem_map_of_mem he))]

/-- A stored document has under each name the BSON form of what the document has. -/
theorem get?_toBson {d : Document} (names : ∀ n ∈ d.keys, FieldName.Storable n) (n : String) :
    Entries.get? n d.toBson = (d.get? n).map Value.toBson := by
  have sorted : (Entries.names (d.entries.map fun e => (e.1, e.2.toBson))).Pairwise (· < ·) :=
    (d.map Value.toBson).sorted
  rw [toBson, escaped_entries names, Entries.get?_putAll, Entries.get?_reverse sorted,
    Entries.get?_map]
  rfl

/-- A field whose name is its own escape is stored with its value, whatever other names have that
escape: these are smaller, so they are put before and give way. -/
theorem get?_toBson_of_storable {d : Document} {name : String} {v : Value}
    (storable : FieldName.Storable name) (found : d.get? name = some v) :
    Entries.get? name d.toBson = some v.toBson := by
  obtain ⟨before, after, split_at⟩ := List.append_of_mem (Table.mem_entries_iff.mpr found)
  have greater : ∀ e ∈ after, name < e.1 := (Table.lt_of_entries_eq split_at).2
  have no_later : Entries.get? name
      (after.map fun e => (FieldName.escape e.1, e.2.toBson)).reverse = none := by
    rw [Entries.get?_eq_none_iff]
    intro there
    simp only [Entries.names, List.map_reverse, List.map_map, List.mem_reverse, List.mem_map] at there
    obtain ⟨e, he, same⟩ := there
    have le : e.1 ≤ name := same ▸ FieldName.le_escape e.1
    exact String.not_lt.mpr le (greater e he)
  rw [toBson, Entries.get?_putAll, split_at, List.map_append, List.map_cons, List.reverse_append,
    List.reverse_cons, Entries.get?_append, Entries.get?_append, no_later, Option.none_or,
    FieldName.escape_of_storable storable, Entries.get?, if_pos rfl, Option.some_or]

end Document

end Docstore

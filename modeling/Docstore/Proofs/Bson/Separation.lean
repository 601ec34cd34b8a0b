import Docstore.Proofs.Bson.Restoration
import Docstore.Proofs.Bson.Stored

/-!
# Fields that share a stored name

Entries that are put one after another keep all their names, once each
(`Entries.mem_names_putAll`), so there are as many as were put exactly if no name came twice
(`Entries.length_putAll_eq_iff`); then they are the ones that were put (`Entries.putAll_eq_self`).

Fields are kept apart in a stored document exactly as far as
`FieldName.escape` keeps their names apart. It does so among the names that are found again under
their escapes (`FieldName.Recoverable.eq_of_escape_eq`), and every other name shares its escape with
one of these (`FieldName.exists_recoverable`). A name that shares its escape with no other holds
neither a character that has an escape nor a word (`FieldName.plain_iff`).
-/

namespace Docstore

/-! ## Entries put one after another -/

namespace Entries

variable {α : Type}

theorem names_put (name : String) (a : α) (es : Entries α) :
    names (put name a es) = if name ∈ names es then names es else names es ++ [name] := by
  induction es with
  | nil => simp [put]
  | cons e es ih =>
    by_cases h : name = e.1
    · simp [put, h]
    · have ih : List.map Prod.fst (put name a es) = _ := ih
      by_cases later : name ∈ names es
      · simp [put, h, later, ih]
      · simp [put, h, later, ih]

theorem length_put (name : String) (a : α) (es : Entries α) :
    (put name a es).length = if name ∈ names es then es.length else es.length + 1 := by
  have h := congrArg List.length (names_put name a es)
  rw [List.length_map] at h
  rw [h]
  split <;> simp

theorem put_of_not_mem {name : String} {es : Entries α} (new : name ∉ names es) (a : α) :
    put name a es = es ++ [(name, a)] := by
  induction es with
  | nil => rfl
  | cons e es ih =>
    rw [put, if_neg (List.ne_of_not_mem_cons new), ih (List.not_mem_of_not_mem_cons new)]
    rfl

/-- Entries put one after another where others are. -/
def putOnto (fs es : Entries α) : Entries α := es.foldl (fun fs e => put e.1 e.2 fs) fs

theorem putOnto_cons (fs : Entries α) (e : String × α) (es : Entries α) :
    putOnto fs (e :: es) = putOnto (put e.1 e.2 fs) es := rfl

theorem mem_names_putOnto {n : String} (fs es : Entries α) :
    n ∈ names (putOnto fs es) ↔ n ∈ names fs ∨ n ∈ names es := by
  induction es generalizing fs with
  | nil => simp [putOnto]
  | cons e es ih =>
    rw [putOnto_cons, ih, names_put]
    split <;> grind

theorem putOnto_eq_append {fs es : Entries α} (distinct : (names (fs ++ es)).Nodup) :
    putOnto fs es = fs ++ es := by
  induction es generalizing fs with
  | nil => exact (List.append_nil fs).symm
  | cons e es ih =>
    have new : e.1 ∉ names fs := by
      rw [names, List.map_append, List.nodup_append] at distinct
      exact fun there => distinct.2.2 e.1 there e.1 List.mem_cons_self rfl
    rw [putOnto_cons, put_of_not_mem new, ih (by simpa using distinct), List.append_assoc]
    rfl

theorem length_putOnto_le (fs es : Entries α) :
    (putOnto fs es).length ≤ fs.length + es.length := by
  induction es generalizing fs with
  | nil => exact Nat.le_refl _
  | cons e es ih =>
    have after_first := ih (put e.1 e.2 fs)
    rw [length_put] at after_first
    rw [putOnto_cons, List.length_cons]
    split at after_first <;> omega

/-- None of a series of entries takes the place of another exactly if no name comes twice. -/
theorem length_putOnto_eq_iff (fs es : Entries α) :
    (putOnto fs es).length = fs.length + es.length ↔
      (names es).Nodup ∧ ∀ n ∈ names es, n ∉ names fs := by
  induction es generalizing fs with
  | nil => simp [putOnto]
  | cons e es ih =>
    have after_first := length_putOnto_le (put e.1 e.2 fs) es
    rw [putOnto_cons, List.length_cons]
    by_cases again : e.1 ∈ names fs
    · rw [length_put, if_pos again] at after_first
      refine iff_of_false (by omega) fun ⟨_, new⟩ => new e.1 List.mem_cons_self again
    · have rest := ih (put e.1 e.2 fs)
      rw [length_put, if_neg again, names_put, if_neg again] at rest
      rw [show fs.length + (es.length + 1) = fs.length + 1 + es.length by omega, rest]
      grind

theorem mem_names_putAll {n : String} {es : Entries α} : n ∈ names (putAll es) ↔ n ∈ names es :=
  (mem_names_putOnto [] es).trans (or_iff_right List.not_mem_nil)

/-- Entries with names that do not come twice are put as they are. -/
theorem putAll_eq_self {es : Entries α} (distinct : (names es).Nodup) : putAll es = es :=
  putOnto_eq_append distinct

theorem length_putAll_eq_iff {es : Entries α} :
    (putAll es).length = es.length ↔ (names es).Nodup := by
  have h := length_putOnto_eq_iff [] es
  rw [List.length_nil, Nat.zero_add] at h
  exact h.trans (and_iff_left fun _ _ => List.not_mem_nil)

end Entries

/-! ## Names that share an escape -/

namespace FieldName

/-- Of the names that are found again, no two share an escape. -/
theorem Recoverable.eq_of_escape_eq {f g : String} (hf : Recoverable f) (hg : Recoverable g)
    (same : escape f = escape g) : f = g :=
  calc
    f = restore (escape f) := hf.symm
    _ = restore (escape g) := by rw [same]
    _ = g := hg

/-- Escaping gives back a name of a store that was restored. -/
theorem escape_restore {name : String} (h : Storable name) : escape (restore name) = name := by
  have words : ∀ e ∈ escapes, e.word ≠ [] := by decide +kernel
  rw [escape, restore, String.toList_ofList, escapeChars_eq_escapeWith, restoreChars_eq_restoreWith,
    escapeWith_restoreWith words regular_escapes.distinct h, String.ofList_toList]

/-- Every name shares its escape with one that is found again. -/
theorem exists_recoverable (name : String) : ∃ g, Recoverable g ∧ escape g = escape name := by
  have same : escape (restore (escape name)) = escape name := escape_restore (storable_escape name)
  exact ⟨restore (escape name), congrArg restore same, same⟩

/-- A name without the characters that have escapes and without words. -/
def Plain (name : String) : Prop :=
  Storable name ∧ ∀ e ∈ escapes, ¬ e.word <:+: name.toList

instance (name : String) : Decidable (Plain name) :=
  inferInstanceAs (Decidable (Storable name ∧ ∀ e ∈ escapes, ¬ e.word <:+: name.toList))

/-- The word is found in the escape of every name with its character. -/
theorem word_infix_escape {e : Escape} (he : e ∈ escapes) {name : String} (h : e.char ∈ name.toList) :
    e.word <:+: (escape name).toList := by
  obtain ⟨a, b, split_at⟩ := List.append_of_mem h
  rw [escape, String.toList_ofList, escapeChars_eq_escapeWith, split_at, escapeWith_append,
    escapeWith_cons, standsFor_char regular_escapes he]
  exact ⟨_, _, (List.append_assoc _ _ _)⟩

/-- Plain names are the ones that share their escapes with no others. -/
theorem plain_iff {name : String} : Plain name ↔ ∀ f, escape f = escape name → f = name := by
  constructor
  · rintro ⟨storable, no_word⟩ f same
    rw [escape_of_storable storable] at same
    have f_storable : Storable f := fun e he there =>
      no_word e he (same ▸ word_infix_escape he there)
    rw [← same, escape_of_storable f_storable]
  · intro alone
    have itself : escape name = name := alone _ (escape_of_storable (storable_escape name))
    have storable : Storable name := itself ▸ storable_escape name
    refine ⟨storable, fun e he ⟨a, b, split_at⟩ => ?_⟩
    -- the character in place of the word makes another name with this escape
    have kept {part : List Char} (h : part ⊆ name.toList) : escapeWith escapes part = part :=
      escapeWith_of_not_mem fun d hd there => storable d hd (h there)
    have left : a ⊆ name.toList := fun c hc => by simp [← split_at, hc]
    have right : b ⊆ name.toList := fun c hc => by simp [← split_at, hc]
    have same : escape (String.ofList (a ++ e.char :: b)) = escape name := by
      rw [itself, escape, String.toList_ofList, escapeChars_eq_escapeWith, escapeWith_append,
        escapeWith_cons, standsFor_char regular_escapes he, kept left, kept right,
        ← List.append_assoc, split_at, String.ofList_toList]
    refine storable e he ?_
    rw [← alone _ same, String.toList_ofList]
    exact List.mem_append_right _ List.mem_cons_self

theorem Plain.recoverable {name : String} (h : Plain name) : Recoverable name := by
  obtain ⟨g, recoverable, same⟩ := exists_recoverable name
  exact plain_iff.mp h g same ▸ recoverable

end FieldName

/-! ## Fields in a stored document -/

namespace Document

open FieldName (escape Recoverable Plain)

theorem names_escaped_entries (d : Document) :
    Entries.names (d.entries.map fun e => (escape e.1, e.2.toBson)) = d.keys.map escape := by
  simp [Table.keys, Function.comp_def]

theorem mem_names_toBson {d : Document} {name : String} :
    name ∈ Entries.names d.toBson ↔ ∃ n ∈ d.keys, escape n = name := by
  rw [toBson, Entries.mem_names_putAll, names_escaped_entries, List.mem_map]

theorem length_toBson_eq_iff {d : Document} :
    d.toBson.length = d.size ↔ (d.keys.map escape).Nodup := by
  rw [← names_escaped_entries, ← Entries.length_putAll_eq_iff, List.length_map]
  rfl

/-- Names that are found again are stored under names of their own. -/
theorem nodup_escaped_keys {d : Document} (names : ∀ n ∈ d.keys, Recoverable n) :
    (d.keys.map escape).Nodup := by
  refine List.pairwise_map.mpr (d.sorted.imp_of_mem fun {m n} hm hn lt same => ?_)
  have eq : m = n := (names m hm).eq_of_escape_eq (names n hn) same
  exact String.lt_irrefl n (eq ▸ lt)

/-- Names that are found again are told from the names of such fields. -/
theorem escape_mem_names_toBson_iff {d : Document} (names : ∀ n ∈ d.keys, Recoverable n) {f : String}
    (hf : Recoverable f) : escape f ∈ Entries.names d.toBson ↔ f ∈ d.keys := by
  rw [mem_names_toBson]
  constructor
  · rintro ⟨n, hn, same⟩
    exact (names n hn).eq_of_escape_eq hf same ▸ hn
  · exact fun h => ⟨f, h, rfl⟩

/-- If all names are told from the names of the fields, those share their escapes with no others. -/
theorem plain_of_separated {d : Document} (own : d.toBson.length = d.size)
    (told : ∀ f, escape f ∈ Entries.names d.toBson ↔ f ∈ d.keys) : ∀ n ∈ d.keys, Plain n := by
  intro n hn
  refine FieldName.plain_iff.mpr fun f same => ?_
  have hf : f ∈ d.keys := (told f).mp (mem_names_toBson.mpr ⟨n, hn, same.symm⟩)
  have distinct : d.keys.Pairwise fun m n => escape m ≠ escape n :=
    List.pairwise_map.mp (length_toBson_eq_iff.mp own)
  have injective : ∀ ⦃m⦄, m ∈ d.keys → ∀ ⦃n⦄, n ∈ d.keys → (escape m = escape n → m = n) := by
    refine List.Pairwise.forall_of_forall_of_flip ?_ ?_ ?_
    · exact fun _ _ _ => rfl
    · exact distinct.imp fun {m n} other same => absurd same other
    · exact distinct.imp fun {m n} other same => absurd same.symm other
  exact injective hf hn same

/-- A stored document has each field of the document as a member of its own, and among all names tells
the names of the fields from others, exactly if the names are plain. If they are only found again
under their escapes, it still has each field and tells their names from others that are found again. -/
theorem toBson_separates (d : Document) :
    ((d.toBson.length = d.size ∧ ∀ f, escape f ∈ Entries.names d.toBson ↔ f ∈ d.keys) ↔
        ∀ n ∈ d.keys, Plain n) ∧
      ((∀ n ∈ d.keys, Recoverable n) →
        d.toBson.length = d.size ∧
          ∀ f, Recoverable f → (escape f ∈ Entries.names d.toBson ↔ f ∈ d.keys)) := by
  refine ⟨⟨fun ⟨own, told⟩ => plain_of_separated own told, fun plain => ?_⟩, fun names => ?_⟩
  · have names : ∀ n ∈ d.keys, Recoverable n := fun n hn => (plain n hn).recoverable
    refine ⟨length_toBson_eq_iff.mpr (nodup_escaped_keys names), fun f => ?_⟩
    rw [mem_names_toBson]
    constructor
    · rintro ⟨n, hn, same⟩
      exact FieldName.plain_iff.mp (plain n hn) f same.symm ▸ hn
    · exact fun h => ⟨f, h, rfl⟩
  · refine ⟨length_toBson_eq_iff.mpr (nodup_escaped_keys names), fun f hf => ?_⟩
    exact escape_mem_names_toBson_iff names hf

/-- A document with a name that is stored under another one. -/
def pointedDocument : Document := .ofList [("a.b", .boolean true), ("a_b", .boolean false)]

theorem toBson_separates_pointedDocument :
    pointedDocument.toBson.length = 2 ∧
      ∀ f, Recoverable f → (escape f ∈ Entries.names pointedDocument.toBson ↔ f ∈ ["a.b", "a_b"]) :=
  (toBson_separates pointedDocument).2 (by decide +kernel)

/-- A document in which one field is lost to another. -/
def mergedDocument : Document := .ofList [("a.b", .boolean true), ("a__dot__b", .boolean false)]

theorem not_forall_toBson_separates :
    ¬ ∀ d : Document,
      d.toBson.length = d.size ∧ ∀ f, escape f ∈ Entries.names d.toBson ↔ f ∈ d.keys := by
  intro h
  exact absurd (h mergedDocument).1 (by decide +kernel)

end Document

end Docstore

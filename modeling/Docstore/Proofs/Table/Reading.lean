import Docstore.Document
import Docstore.Proofs.Result.List
import Docstore.Schema.Json

/-!
# Tables read from members

Documents and schemas are read in one way: each member is read on its own, and what it holds is put
under its name (`Document.ofJson_object`, `Schema.ofJson_object`). `Table.readAll` is that way for any
reader of values.

`Entries.Related` ties entries to what they are read as. Entries in the order of their names are read
as the entries of a table in the same order (`Table.readAll_entries_iff`), so what a table was written
as is read entry by entry (`Table.readAll_map_iff`).
-/

namespace Docstore

variable {ε α β γ : Type}

namespace Entries

/-- The same names in the same order, with values that are related. -/
def Related (r : α → β → Prop) : Entries α → Entries β → Prop :=
  List.Forall₂ fun e f => e.1 = f.1 ∧ r e.2 f.2

theorem Related.names_eq {r : α → β → Prop} {es : Entries α} {fs : Entries β} (h : Related r es fs) :
    names es = names fs := by
  induction h with
  | nil => rfl
  | cons first _ ih => exact congrArg₂ List.cons first.1 ih

theorem related_map_iff {r : α → β → Prop} {f : γ → α} {g : γ → β} {es : Entries γ} :
    Related r (es.map fun e => (e.1, f e.2)) (es.map fun e => (e.1, g e.2)) ↔
      ∀ e ∈ es, r (f e.2) (g e.2) := by
  simp [Related, List.forall₂_map_left_iff, List.forall₂_map_right_iff, List.forall₂_same]

end Entries

namespace Table

open Entries (Related)

/-- A member with its value read. -/
def readMember (read : α → Except ε β) (m : String × α) : Except ε (String × β) :=
  (read m.2).map (m.1, ·)

/-- Members read one after another into a table; the first bad one is reported. -/
def readAll (read : α → Except ε β) (members : Entries α) (t : Table β) : Except ε (Table β) :=
  (members.mapM (readMember read)).map t.insertAll

theorem readMember_eq_ok_iff {read : α → Except ε β} {m : String × α} {e : String × β} :
    readMember read m = .ok e ↔ m.1 = e.1 ∧ read m.2 = .ok e.2 := by
  obtain ⟨name, b⟩ := e
  unfold readMember
  cases read m.2 <;> simp [Except.map, Prod.ext_iff]

theorem readAll_cons (read : α → Except ε β) (m : String × α) (members : Entries α) (t : Table β) :
    readAll read (m :: members) t = read m.2 >>= fun b => readAll read members (t.insert m.1 b) := by
  unfold readAll
  rw [List.mapM_cons, readMember]
  cases read m.2 with
  | error e => rfl
  | ok b => cases members.mapM (readMember read) <;> rfl

theorem readAll_eq_ok_iff {read : α → Except ε β} {members : Entries α} {t u : Table β} :
    readAll read members t = .ok u ↔
      ∃ es, Related (fun a b => read a = .ok b) members es ∧ u = t.insertAll es := by
  have related (es : Entries β) : members.mapM (readMember read) = .ok es ↔
      Related (fun a b => read a = .ok b) members es := by
    rw [mapM_eq_ok_iff, Related]
    simp only [readMember_eq_ok_iff]
  simp only [← related, readAll]
  cases members.mapM (readMember read) <;> simp [Except.map, eq_comm]

/-- What cannot be read is blamed on a member that cannot be read. -/
theorem exists_of_readAll_eq_error {read : α → Except ε β} {members : Entries α} {t : Table β} {e : ε}
    (h : readAll read members t = .error e) : ∃ m ∈ members, read m.2 = .error e := by
  unfold readAll at h
  cases walk : members.mapM (readMember read) with
  | ok es =>
    rw [walk] at h
    cases h
  | error e' =>
    rw [walk] at h
    cases h
    obtain ⟨before, m, after, rfl, -, fails⟩ := mapM_eq_error_iff.mp walk
    refine ⟨m, List.mem_append_right before List.mem_cons_self, ?_⟩
    unfold readMember at fails
    cases value : read m.2 with
    | ok b =>
      rw [value] at fails
      cases fails
    | error e'' =>
      rw [value] at fails
      cases fails
      rfl

/-- Entries in the order of their names are those of the table that is made of them. -/
theorem eq_ofList_iff {es : Entries α} (sorted : (Entries.names es).Pairwise (· < ·)) {t : Table α} :
    t = ofList es ↔ t.entries = es := by
  have made : ofList es = ⟨es, sorted⟩ := by
    refine ext_get? fun n => ?_
    rw [ofList, get?_insertAll, Entries.get?_reverse sorted, get?_empty, Option.or_none]
    rfl
  rw [made]
  exact ⟨congrArg entries, fun h => eq_of_entries_eq h⟩

/-- Members in the order of their names are read entry by entry. -/
theorem readAll_entries_iff {read : α → Except ε β} {t : Table α} {u : Table β} :
    readAll read t.entries ∅ = .ok u ↔ Related (fun a b => read a = .ok b) t.entries u.entries := by
  rw [readAll_eq_ok_iff]
  constructor
  · rintro ⟨es, related, made⟩
    have sorted : (Entries.names es).Pairwise (· < ·) := related.names_eq ▸ t.sorted
    rwa [(eq_ofList_iff sorted).mp made]
  · intro related
    exact ⟨u.entries, related, (eq_ofList_iff u.sorted).mpr rfl⟩

/-- A table that was written is read just if each of its values is, and as what they are read as. -/
theorem readAll_map_eq_ok_iff {read : α → Except ε β} {write : γ → α} {f : γ → β} {P : γ → Prop}
    (reads : ∀ c b, read (write c) = .ok b ↔ b = f c ∧ P c) {t : Table γ} {u : Table β} :
    readAll read (t.map write).entries ∅ = .ok u ↔
      u = t.map f ∧ ∀ n c, t.get? n = some c → P c := by
  have each_iff (e : String × γ) (g : String × β) :
      (e.1 = g.1 ∧ read (write e.2) = .ok g.2) ↔ P e.2 ∧ (e.1, f e.2) = g := by
    rw [reads, Prod.ext_iff, @eq_comm _ g.2]
    exact ⟨fun h => ⟨h.2.2, h.1, h.2.1⟩, fun h => ⟨h.2.1, h.2.2, h.1⟩⟩
  have same_entries : (t.map f).entries = u.entries ↔ u = t.map f :=
    ⟨fun h => (eq_of_entries_eq h).symm, fun h => congrArg entries h.symm⟩
  rw [readAll_entries_iff, Entries.Related, map, List.forall₂_map_left_iff]
  simp only [each_iff]
  rw [List.forall₂_and_left, ← List.forall₂_map_left_iff, List.forall₂_eq_eq_eq,
    forall_mem_entries_iff fun _ => P, and_comm]
  exact and_congr_left' same_entries

/-- A table that was written is read as another one just if each of its values is. -/
theorem readAll_map_iff {read : α → Except ε β} {write : γ → α} {f : γ → β} {t : Table γ} :
    readAll read (t.map write).entries ∅ = .ok (t.map f) ↔
      ∀ n c, t.get? n = some c → read (write c) = .ok (f c) := by
  rw [readAll_entries_iff]
  exact Entries.related_map_iff.trans (forall_mem_entries_iff fun _ c => read (write c) = .ok (f c))

end Table

/-! ## Documents and schemas -/

theorem Document.ofJson_object (members : Entries Json) :
    Document.ofJson (.object members) = Table.readAll Value.ofJson members ∅ := by
  have from_any : ∀ d, readMembers members d = Table.readAll Value.ofJson members d := by
    induction members with
    | nil => exact fun d => rfl
    | cons m ms ih =>
      intro d
      rw [readMembers, Table.readAll_cons]
      simp only [ih]
  exact from_any ∅

theorem Schema.ofJson_object (members : Entries Json) :
    Schema.ofJson (.object members) = Table.readAll Field.ofJson members ∅ := by
  have from_any : ∀ s, readMembers members s = Table.readAll Field.ofJson members s := by
    induction members with
    | nil => exact fun s => rfl
    | cons m ms ih =>
      intro s
      rw [readMembers, Table.readAll_cons]
      simp only [ih]
  exact from_any ∅

end Docstore

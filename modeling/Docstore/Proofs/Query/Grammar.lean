import Docstore.Proofs.Result.List
import Docstore.Query.Entry

/-!
# The grammar of query entries

Which JSON is a query entry, and which one, said without the reader. A filter has two forms
(`QueryEntry.FilterForm`): its condition stands beside the name of the field, or in an object under that
name. A sort has one, an object with the direction under the name of the field. `QueryEntry.WrittenAs`
joins these with what a condition, an operand and a direction may be.

The forms do not overlap, because no single member of an entry may be called `condition`. The reader
takes just what the grammar has (`QueryEntry.ofJson_eq_ok_iff`). It fails in a document only for the
operand of a filter whose condition it knows, and in the query otherwise, and it never looks at other
members of a filter (`QueryEntry.entry_grammar`).
-/

namespace Docstore

/-! ## What a choice is written as -/

namespace Json

variable {α : Type} {known : List (String × α)} {a : α}

theorem chosen_eq_ok_iff {name : String} : chosen known name = .ok a ↔ known.lookup name = some a := by
  unfold chosen
  cases known.lookup name <;> simp

theorem choice_eq_ok_iff {j : Json} : choice known j = .ok a ↔
    ∃ name, known.lookup name = some a ∧ (j = .string name ∨ j = .object [(name, .null)]) := by
  constructor
  · intro h
    unfold choice at h
    split at h
    · next name => exact ⟨name, chosen_eq_ok_iff.mp h, .inl rfl⟩
    · next name content =>
      obtain ⟨b, found, h⟩ := bind_eq_ok_iff.mp h
      split at h
      · cases h
        exact ⟨name, chosen_eq_ok_iff.mp found, .inr rfl⟩
      · cases h
    · cases h
    · cases h
  · rintro ⟨name, found, rfl | rfl⟩
    · exact chosen_eq_ok_iff.mpr found
    · exact bind_eq_ok_iff.mpr ⟨a, chosen_eq_ok_iff.mpr found, rfl⟩

theorem member?_eq_some_iff {name : String} {j k : Json} :
    j.member? name = some k ↔ ∃ members, j = .object members ∧ Entries.get? name members = some k := by
  cases j <;> simp [member?]

end Json

/-! ## Values that are refused -/

namespace Value

/-- An object that is no date is a fault of the document, and so is a bad date. -/
theorem exists_fault_of_ofJson_object_eq_error {members : Entries Json} {failure : Failure}
    (h : ofJson (.object members) = .error failure) : ∃ fault, failure = .document fault := by
  by_cases dated : ∃ name raw, members = [(name, .string raw)]
  · obtain ⟨name, raw, rfl⟩ := dated
    rw [ofJson, dateOfText] at h
    split at h
    · split at h
      · cases h
      · cases h
        exact ⟨_, rfl⟩
    · cases h
      exact ⟨_, rfl⟩
  · rw [ofJson] at h
    · cases h
      exact ⟨_, rfl⟩
    · intro name raw same
      exact dated ⟨name, raw, same⟩

mutual

/-- A value that cannot be read is a fault of the document. -/
theorem exists_fault_of_ofJson_eq_error {failure : Failure} :
    ∀ j : Json, ofJson j = .error failure → ∃ fault, failure = .document fault
  | .null, h | .boolean _, h | .integer _, h | .real _, h | .string _, h => nomatch h
  | .object _, h => exists_fault_of_ofJson_object_eq_error h
  | .array items, h => by
    rcases bind_eq_error_iff.mp h with refused | ⟨_, _, h⟩
    · exact exists_fault_of_itemsOfJson_eq_error items refused
    · cases h

theorem exists_fault_of_itemsOfJson_eq_error {failure : Failure} :
    ∀ js : List Json, itemsOfJson js = .error failure → ∃ fault, failure = .document fault
  | [], h => nomatch h
  | j :: js, h => by
    rcases bind_eq_error_iff.mp h with refused | ⟨_, _, h⟩
    · exact exists_fault_of_ofJson_eq_error j refused
    · rcases bind_eq_error_iff.mp h with refused | ⟨_, _, h⟩
      · exact exists_fault_of_itemsOfJson_eq_error js refused
      · cases h

end

end Value

namespace QueryEntry

/-! ## Conditions -/

/-- The name that a condition has for each operator. -/
inductive NamesOperator : String → Operator → Prop
  | equal : NamesOperator "equals" .equal
  | notEqual : NamesOperator "notEquals" .notEqual
  | greater : NamesOperator "gt" .greater
  | less : NamesOperator "lt" .less
  | greaterOrEqual : NamesOperator "gte" .greaterOrEqual
  | lessOrEqual : NamesOperator "lte" .lessOrEqual
  | isIn : NamesOperator "in" .isIn
  | notIn : NamesOperator "notIn" .notIn
  | arrayContains : NamesOperator "arrayContains" .arrayContains
  | arrayContainsAny : NamesOperator "arrayContainsAny" .arrayContainsAny

theorem namesOperator_iff {name : String} {op : Operator} :
    NamesOperator name op ↔ name = op.conditionName := by
  constructor
  · intro names
    cases names <;> rfl
  · rintro rfl
    cases op <;> constructor

/-- The JSON of a condition: the name of an operator, or an object with that name as its only member and
null as the value. -/
inductive ConditionWritten (op : Operator) : Json → Prop
  | named {name : String} (names : NamesOperator name op) : ConditionWritten op (.string name)
  | tagged {name : String} (names : NamesOperator name op) :
    ConditionWritten op (.object [(name, .null)])

theorem lookup_conditions_eq_some_iff {name : String} {op : Operator} :
    conditions.lookup name = some op ↔ NamesOperator name op := by
  rw [namesOperator_iff]
  constructor
  · intro found
    obtain ⟨before, after, split_at, -⟩ := List.lookup_eq_some_iff.mp found
    have listed : (name, op) ∈ conditions := split_at ▸ List.mem_append_right before List.mem_cons_self
    obtain ⟨o, -, same⟩ := List.mem_map.mp listed
    cases same
    rfl
  · rintro rfl
    cases op <;> decide +kernel

theorem choice_conditions_eq_ok_iff {j : Json} {op : Operator} :
    Json.choice conditions j = .ok op ↔ ConditionWritten op j := by
  rw [Json.choice_eq_ok_iff]
  simp only [lookup_conditions_eq_some_iff]
  constructor
  · rintro ⟨name, names, rfl | rfl⟩
    · exact .named names
    · exact .tagged names
  · intro written
    cases written with
    | named names => exact ⟨_, names, .inl rfl⟩
    | tagged names => exact ⟨_, names, .inr rfl⟩

/-! ## Directions -/

/-- The JSON of a direction: a number, whichever it is, or the name of a direction. -/
inductive DirectionWritten : Json → SortOrder → Prop
  | integer (n : Int) : DirectionWritten (.integer n) (.numeric (Binary64.ofInt n))
  | real (x : Binary64) : DirectionWritten (.real x) (.numeric x)
  | named (direction : Direction) : DirectionWritten (.string direction.name) (.named direction)

theorem orderOfJson_of_written {j : Json} {order : SortOrder} (h : DirectionWritten j order) :
    orderOfJson j = .ok order := by
  cases h with
  | integer n => rfl
  | real x => rfl
  | named direction => cases direction <;> rfl

/-- What is no direction is a fault of the query. -/
theorem direction_cases (j : Json) :
    (∃ order, DirectionWritten j order) ∨ ∃ fault, orderOfJson j = .error (.query fault) := by
  cases j with
  | integer n => exact .inl ⟨_, .integer n⟩
  | real x => exact .inl ⟨_, .real x⟩
  | string name =>
    by_cases ascending : name = "asc"
    · subst ascending
      exact .inl ⟨_, .named .ascending⟩
    · by_cases descending : name = "desc"
      · subst descending
        exact .inl ⟨_, .named .descending⟩
      · refine .inr ⟨.sortName name, ?_⟩
        rw [orderOfJson, Direction.ofName?, if_neg ascending, if_neg descending]
  | null | boolean _ | array _ | object _ => exact .inr ⟨_, rfl⟩

/-! ## Filters -/

/-- The forms of a filter: its members stand beside the name of the field, or alone under it. -/
inductive FilterForm (field : String) (condition : Json) (members : Entries Json) : Json → Prop
  | flat (conditioned : Entries.get? conditionKey members = some condition)
    (named : Entries.get? fieldKey members = some (.string field)) :
    FilterForm field condition members (.object members)
  | nested (conditioned : Entries.get? conditionKey members = some condition)
    (other : field ≠ conditionKey) :
    FilterForm field condition members (.object [(field, .object members)])

/-- The JSON of the operand among the members of a filter. One that is left out is null. -/
def operandJson (members : Entries Json) : Json := (Entries.get? valueKey members).getD .null

section Filters

variable {j condition : Json} {field : String} {members : Entries Json}

/-- A single member under a field is no condition. -/
theorem get?_conditionKey_single (other : field ≠ conditionKey) (j : Json) :
    Entries.get? conditionKey [(field, j)] = none := by
  rw [Entries.get?, if_neg (Ne.symm other), Entries.get?]

theorem ofJson_of_filterForm (form : FilterForm field condition members j) :
    ofJson j = filterOfMembers field condition members := by
  cases form with
  | flat conditioned named => simp only [ofJson, ofMembers, conditioned, named]
  | nested conditioned other =>
    simp only [ofJson, ofMembers, get?_conditionKey_single other, ofFieldMember, Json.member?,
      conditioned]

/-- With a condition that is known, the operand decides. -/
theorem filterOfMembers_of_written {op : Operator} (denotes : ConditionWritten op condition) :
    filterOfMembers field condition members =
      (Value.ofJson (operandJson members) >>= fun operand => .ok (.filter field op operand)) := by
  rw [filterOfMembers, choice_conditions_eq_ok_iff.mpr denotes]
  rfl

/-- What is no condition is a fault of the query. -/
theorem condition_cases (field : String) (condition : Json) (members : Entries Json) :
    (∃ op, ConditionWritten op condition) ∨
      ∃ fault, filterOfMembers field condition members = .error (.query fault) := by
  cases chosen : Json.choice conditions condition with
  | ok op => exact .inl ⟨op, choice_conditions_eq_ok_iff.mp chosen⟩
  | error fault =>
    refine .inr ⟨.unknownCondition field fault, ?_⟩
    rw [filterOfMembers, chosen]
    rfl

end Filters

/-! ## Entries -/

/-- Which JSON stands for which entry. -/
inductive WrittenAs : Json → QueryEntry → Prop
  | filter {j : Json} {field : String} {condition : Json} {members : Entries Json} {op : Operator}
    {operand : Value} (form : FilterForm field condition members j)
    (denotes : ConditionWritten op condition)
    (read : Value.ofJson (operandJson members) = .ok operand) :
    WrittenAs j (.filter field op operand)
  | sort {field : String} {direction : Json} {order : SortOrder} (other : field ≠ conditionKey)
    (directed : DirectionWritten direction order) :
    WrittenAs (.object [(field, direction)]) (.sort field order)

/-- A filter in which nothing but the operand is wrong, and how. -/
inductive OperandRefused (j : Json) (failure : Failure) : Prop
  | filter {field : String} {condition : Json} {members : Entries Json} {op : Operator}
    (form : FilterForm field condition members j) (denotes : ConditionWritten op condition)
    (refused : Value.ofJson (operandJson members) = .error failure)

variable {j : Json} {e : QueryEntry} {failure : Failure} {field : String} {direction : Json}

theorem ofJson_of_unconditioned (other : field ≠ conditionKey)
    (unconditioned : direction.member? conditionKey = none) :
    ofJson (.object [(field, direction)]) =
      (orderOfJson direction >>= fun order => .ok (.sort field order)) := by
  simp only [ofJson, ofMembers, get?_conditionKey_single other, ofFieldMember, unconditioned]
  rfl

theorem ofJson_of_writtenAs (h : WrittenAs j e) : ofJson j = .ok e := by
  cases h with
  | filter form denotes read =>
    rw [ofJson_of_filterForm form, filterOfMembers_of_written denotes, read, ok_bind]
  | sort other directed =>
    have unconditioned : ∀ {k o}, DirectionWritten k o → k.member? conditionKey = none := by
      rintro _ _ (_ | _ | _) <;> rfl
    rw [ofJson_of_unconditioned other (unconditioned directed), orderOfJson_of_written directed, ok_bind]

theorem ofJson_of_operandRefused (h : OperandRefused j failure) : ofJson j = .error failure := by
  obtain ⟨form, denotes, refused⟩ := h
  rw [ofJson_of_filterForm form, filterOfMembers_of_written denotes, refused, error_bind]

theorem OperandRefused.kind (h : OperandRefused j failure) : failure.kind = .invalidDocument := by
  obtain ⟨-, -, refused⟩ := h
  obtain ⟨fault, rfl⟩ := Value.exists_fault_of_ofJson_eq_error _ refused
  rfl

/-- What has neither form is a fault of the query. -/
theorem form_cases (j : Json) :
    (∃ field condition members, FilterForm field condition members j) ∨
      (∃ field direction, j = .object [(field, direction)] ∧ field ≠ conditionKey ∧
        direction.member? conditionKey = none) ∨
      ∃ fault, ofJson j = .error (.query fault) := by
  cases j with
  | object members =>
    cases conditioned : Entries.get? conditionKey members with
    | some condition =>
      by_cases named : ∃ field, Entries.get? fieldKey members = some (.string field)
      · obtain ⟨field, named⟩ := named
        exact .inl ⟨field, condition, members, .flat conditioned named⟩
      · refine .inr (.inr ⟨.fieldMissing, ?_⟩)
        simp only [ofJson, ofMembers, conditioned]
        split
        · next field found => exact absurd ⟨field, found⟩ named
        · rfl
    | none =>
      rcases members with _ | ⟨⟨field, direction⟩, _ | ⟨m, rest⟩⟩
      · exact .inr (.inr ⟨_, rfl⟩)
      · -- A single member called `condition` makes a filter that names no field.
        have other : field ≠ conditionKey := by
          rintro rfl
          rw [Entries.get?, if_pos rfl] at conditioned
          cases conditioned
        cases inner : direction.member? conditionKey with
        | some condition =>
          obtain ⟨members, rfl, inner⟩ := Json.member?_eq_some_iff.mp inner
          exact .inl ⟨field, condition, members, .nested inner other⟩
        | none => exact .inr (.inl ⟨field, direction, rfl, other, inner⟩)
      · refine .inr (.inr ⟨.fieldCount (rest.length + 2), ?_⟩)
        simp only [ofJson, ofMembers, conditioned]
        rfl
  | _ => exact .inr (.inr ⟨_, rfl⟩)

/-- An entry is written as the grammar has it, or only its operand is refused, or the query is at
fault. -/
theorem entry_cases (j : Json) :
    (∃ e, WrittenAs j e) ∨ (∃ failure, OperandRefused j failure) ∨
      ∃ fault, ofJson j = .error (.query fault) := by
  rcases form_cases j with ⟨field, condition, members, form⟩ |
    ⟨field, direction, rfl, other, unconditioned⟩ | malformed
  · rcases condition_cases field condition members with ⟨op, denotes⟩ | ⟨fault, unknown⟩
    · cases read : Value.ofJson (operandJson members) with
      | ok operand => exact .inl ⟨_, .filter form denotes read⟩
      | error failure => exact .inr (.inl ⟨failure, .filter form denotes read⟩)
    · exact .inr (.inr ⟨fault, (ofJson_of_filterForm form).trans unknown⟩)
  · rcases direction_cases direction with ⟨order, directed⟩ | ⟨fault, undirected⟩
    · exact .inl ⟨_, .sort other directed⟩
    · refine .inr (.inr ⟨fault, ?_⟩)
      rw [ofJson_of_unconditioned other unconditioned, undirected, error_bind]
  · exact .inr (.inr malformed)

/-- The reader takes what the grammar has. -/
theorem ofJson_eq_ok_iff : ofJson j = .ok e ↔ WrittenAs j e := by
  constructor
  · intro h
    rcases entry_cases j with ⟨e', written⟩ | ⟨failure, refused⟩ | ⟨fault, malformed⟩
    · cases (ofJson_of_writtenAs written).symm.trans h
      exact written
    · cases (ofJson_of_operandRefused refused).symm.trans h
    · cases malformed.symm.trans h
  · exact ofJson_of_writtenAs

theorem kind_of_ofJson_eq_error (h : ofJson j = .error failure) :
    OperandRefused j failure ∧ failure.kind = .invalidDocument ∨
      (∀ other, ¬ OperandRefused j other) ∧ failure.kind = .invalidQuery := by
  rcases entry_cases j with ⟨e, written⟩ | ⟨failure', refused⟩ | ⟨fault, malformed⟩
  · cases (ofJson_of_writtenAs written).symm.trans h
  · cases (ofJson_of_operandRefused refused).symm.trans h
    exact .inl ⟨refused, refused.kind⟩
  · cases malformed.symm.trans h
    refine .inr ⟨fun other refused => ?_, rfl⟩
    cases (ofJson_of_operandRefused refused).symm.trans malformed
    cases refused.kind

/-- Filters of one field, with one condition and one operand, are read alike. -/
theorem ofJson_congr {j k condition : Json} {field : String} {members others : Entries Json}
    (form : FilterForm field condition members j) (form' : FilterForm field condition others k)
    (same : operandJson others = operandJson members) : ofJson k = ofJson j := by
  have alike : filterOfMembers field condition others = filterOfMembers field condition members := by
    unfold operandJson at same
    rw [filterOfMembers, filterOfMembers, same]
  rw [ofJson_of_filterForm form, ofJson_of_filterForm form', alike]

/-- The members of a filter may stand under its field or beside its name. -/
theorem ofJson_insert_fieldKey {condition : Json} {members : Entries Json} (other : field ≠ conditionKey)
    (conditioned : Entries.get? conditionKey members = some condition) :
    ofJson (.object (Entries.insert fieldKey (.string field) members)) =
      ofJson (.object [(field, .object members)]) := by
  have flat : FilterForm field condition (Entries.insert fieldKey (.string field) members)
      (.object (Entries.insert fieldKey (.string field) members)) := by
    apply FilterForm.flat
    · rw [Entries.get?_insert, if_neg (by decide), conditioned]
    · rw [Entries.get?_insert, if_pos rfl]
  refine ofJson_congr (.nested conditioned other) flat ?_
  rw [operandJson, operandJson, Entries.get?_insert, if_neg (by decide)]

/-- The reader of query entries takes what the grammar has, as the entry that is written. What it does not
take is a bad document if only the operand of a filter is wrong, and else a bad query. Of a filter it
sees its field, its condition and its operand, in either form; so a condition and an operand under a
field say the same as beside its name. -/
theorem entry_grammar (j : Json) :
    (∀ e, ofJson j = .ok e ↔ WrittenAs j e) ∧
      (∀ failure, ofJson j = .error failure →
        failure.kind = .invalidDocument ∨ failure.kind = .invalidQuery) ∧
      (∀ failure, ofJson j = .error failure ∧ failure.kind = .invalidDocument ↔
        OperandRefused j failure) ∧
      (∀ field condition members, FilterForm field condition members j →
        ∀ k others, FilterForm field condition others k → operandJson others = operandJson members →
          ofJson k = ofJson j) ∧
      ∀ field members, j = .object [(field, .object members)] → field ≠ conditionKey →
        (Entries.get? conditionKey members).isSome = true →
          ofJson j = ofJson (.object (Entries.insert fieldKey (.string field) members)) := by
  refine ⟨fun e => ofJson_eq_ok_iff, ?_, ?_, ?_, ?_⟩
  · intro failure failed
    rcases kind_of_ofJson_eq_error failed with ⟨-, document⟩ | ⟨-, query⟩
    · exact .inl document
    · exact .inr query
  · intro failure
    constructor
    · rintro ⟨failed, document⟩
      rcases kind_of_ofJson_eq_error failed with ⟨refused, -⟩ | ⟨-, query⟩
      · exact refused
      · cases document.symm.trans query
    · intro refused
      have failed := ofJson_of_operandRefused refused
      exact ⟨failed, refused.kind⟩
  · intro field condition members form k others form' same
    exact ofJson_congr form form' same
  · rintro field members rfl other conditioned
    obtain ⟨condition, conditioned⟩ := Option.isSome_iff_exists.mp conditioned
    exact (ofJson_insert_fieldKey other conditioned).symm

/-- Posts with more than ten views, asked for with a remark, without it, and beside the name of the
field. -/
theorem entry_grammar_views :
    let members := [("condition", Json.string "gt"), ("note", .null), ("value", .integer 10)]
    let brief := [("condition", Json.string "gt"), ("value", .integer 10)]
    let nested := Json.object [("views", .object members)]
    FilterForm "views" (.string "gt") members nested ∧
      FilterForm "views" (.string "gt") brief (.object [("views", .object brief)]) ∧
      ofJson nested = .ok (.filter "views" .greater (.number (Binary64.ofInt 10))) ∧
      ofJson (.object [("views", .object brief)]) = ofJson nested ∧
      ofJson nested = ofJson (.object (Entries.insert "field" (.string "views") members)) := by
  intro members brief nested
  have form : FilterForm "views" (.string "gt") members nested := .nested rfl (by decide)
  have form' : FilterForm "views" (.string "gt") brief (.object [("views", .object brief)]) :=
    .nested rfl (by decide)
  have denotes : ConditionWritten .greater (.string "gt") := .named .greater
  obtain ⟨takes, -, -, alike, flat⟩ := entry_grammar nested
  have taken := (takes _).mpr (.filter form denotes rfl)
  have told_alike := alike "views" _ members form _ brief form' rfl
  exact ⟨form, form', taken, told_alike, flat "views" members rfl (by decide) rfl⟩

end QueryEntry

end Docstore

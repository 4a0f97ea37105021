import SqlBuilder.Proofs.Sql.Compilation
import SqlBuilder.Proofs.Sql.Rows

/-!
# Why a statement is refused

A statement is refused for want of a verb, when the policy asks for one, or as an insert whose rows do not go under
one list of columns. Nothing else can go wrong when it is compiled.

* `Sql.not_uniform_iff`, `Sql.blames_singleton_iff` : rows with a fault.
* `Sql.declaredParameters_eq_error_iff` : only an insert of rows can have a fault in its parameters.
* `Refuses`, `compile_eq_error_iff` : the reasons, and that there are no others.
* `compile_refuses_exactly` : when a statement is refused, with what message, and what has no say in it.
-/

namespace SqlBuilder

set_option autoImplicit false

/-! ## Faults in rows -/

namespace Sql

variable {records : List Record} {record : Record} {fault : InsertFault}

theorem not_uniform_of_blames (h : Blames records fault) : ¬ Uniform records := by
  intro uniform
  have written := valuesClause_of_uniform uniform
  rw [valuesClause_of_blames h] at written
  cases written

theorem exists_blames_iff : (∃ fault, Blames records fault) ↔ ¬ Uniform records := by
  constructor
  · rintro ⟨fault, h⟩
    exact not_uniform_of_blames h
  · exact (uniform_or_blamed records).resolve_left

theorem not_uniform_iff :
    ¬ Uniform records ↔ records = [] ∨ (∃ row ∈ records, row.columns = []) ∨
      ∃ first ∈ records, ∃ second ∈ records, ∃ column, column ∈ first.columns ∧ column ∉ second.columns := by
  constructor
  · intro h
    by_contra sound
    push Not at sound
    obtain ⟨ne_nil, filled, alike⟩ := sound
    exact h ⟨ne_nil, filled, fun first hfirst second hsecond column => alike first hfirst second hsecond column⟩
  · rintro (rfl | ⟨row, hrow, empty⟩ | ⟨first, hfirst, second, hsecond, column, has, lacks⟩) uniform
    · exact uniform.ne_nil rfl
    · exact uniform.filled row hrow empty
    · exact lacks (uniform.alike first hfirst second hsecond has)

theorem uniform_singleton_iff : Uniform [record] ↔ record.columns ≠ [] := by
  constructor
  · exact fun h => h.filled record List.mem_cons_self
  · intro filled
    exact ⟨List.cons_ne_nil _ _, by simpa using filled, by simp⟩

theorem blames_singleton_iff : Blames [record] fault ↔ record.columns = [] ∧ fault = .emptyRow 0 := by
  have only_row (empty : record.columns = []) : Blames [record] (.emptyRow 0) :=
    @Blames.emptyRow [record] [] [] record rfl empty (by simp)
  constructor
  · intro h
    have empty : record.columns = [] := by
      by_contra filled
      exact not_uniform_of_blames h (uniform_singleton_iff.2 filled)
    have same := (valuesClause_of_blames h).symm.trans (valuesClause_of_blames (only_row empty))
    exact ⟨empty, Except.error.inj same⟩
  · rintro ⟨empty, rfl⟩
    exact only_row empty

/-! ## Faults in parameters -/

variable {verb : Option Verb} {payload : Payload} {clauses : Clauses}

/-- The records that an insert writes as rows. -/
def rowsOf? : Payload → Option (List Record)
  | .map record => some [record]
  | .rows records => some records
  | .list _ | .text _ => none

theorem insertParameters_eq_error_iff :
    insertParameters payload = .error fault ↔ ∃ records, rowsOf? payload = some records ∧ Blames records fault := by
  cases payload with
  | map record => simp [insertParameters, rowsOf?, valuesClause_eq_error_iff]
  | rows records => simp [insertParameters, rowsOf?, valuesClause_eq_error_iff]
  | list items => simp [insertParameters, rowsOf?]
  | text sql => simp [insertParameters, rowsOf?]

theorem parameters_eq_error_iff :
    parameters verb payload = .error fault ↔
      verb = some .insert ∧ ∃ records, rowsOf? payload = some records ∧ Blames records fault := by
  rw [← insertParameters_eq_error_iff]
  cases verb with
  | none => simp [parameters]
  | some verb => cases verb <;> simp [parameters]

theorem map_eq_error_iff {ε α β : Type} {f : α → β} {result : Except ε α} {e : ε} :
    result.map f = .error e ↔ result = .error e := by
  cases result with
  | error other =>
    constructor
    · exact fun h => congrArg _ (Except.error.inj h)
    · exact fun h => congrArg _ (Except.error.inj h)
  | ok value =>
    constructor
    · intro h
      cases h
    · intro h
      cases h

theorem declaredParameters_eq_error_iff :
    declaredParameters clauses = .error fault ↔ clauses.verb? = some .insert ∧
      ∃ payload records, clauses.params? = some payload ∧ rowsOf? payload = some records ∧ Blames records fault := by
  rw [declaredParameters]
  cases hparams : clauses.params? with
  | none => simp
  | some payload =>
    rw [map_eq_error_iff, parameters_eq_error_iff]
    simp

end Sql

/-! ## Reasons -/

variable {policy : CompilePolicy} {clauses : Clauses}

/-- Why declared clauses are refused under a policy. -/
inductive Refuses (policy : CompilePolicy) (clauses : Clauses) : StatementError → Prop
  | missingVerb (required : policy.requiresVerb = true) (absent : clauses.verb? = none) :
      Refuses policy clauses .missingVerb
  | emptyRecord {record : Record} (insert : clauses.verb? = some .insert)
      (params : clauses.params? = some (.map record)) (empty : record.columns = []) :
      Refuses policy clauses (.malformedInsert (.emptyRow 0))
  | rows {records : List Record} {fault : InsertFault} (insert : clauses.verb? = some .insert)
      (params : clauses.params? = some (.rows records)) (blamed : Sql.Blames records fault) :
      Refuses policy clauses (.malformedInsert fault)

theorem not_admits_iff : ¬ policy.Admits clauses ↔ policy.requiresVerb = true ∧ clauses.verb? = none := by
  simp [CompilePolicy.Admits]

theorem compile_eq_malformedInsert_iff {fault : InsertFault} :
    compile policy clauses = .error (.malformedInsert fault) ↔ Sql.declaredParameters clauses = .error fault := by
  by_cases admits : policy.Admits clauses
  · rw [compile_eq_error_iff_of_admits admits]
    simp
  · obtain ⟨-, absent⟩ := not_admits_iff.1 admits
    rw [compile_eq_of_not_admits admits, Sql.declaredParameters_eq_error_iff]
    simp [absent]

theorem compile_eq_error_iff {e : StatementError} : compile policy clauses = .error e ↔ Refuses policy clauses e := by
  constructor
  · intro h
    by_cases admits : policy.Admits clauses
    · obtain ⟨fault, declared, rfl⟩ := (compile_eq_error_iff_of_admits admits).1 h
      obtain ⟨insert, payload, records, params, hrows, blamed⟩ := Sql.declaredParameters_eq_error_iff.1 declared
      cases payload with
      | map record =>
        cases hrows
        obtain ⟨empty, rfl⟩ := Sql.blames_singleton_iff.1 blamed
        exact .emptyRecord insert params empty
      | rows rows =>
        cases hrows
        exact .rows insert params blamed
      | list items => cases hrows
      | text sql => cases hrows
    · rw [compile_eq_of_not_admits admits] at h
      cases h
      obtain ⟨required, absent⟩ := not_admits_iff.1 admits
      exact .missingVerb required absent
  · intro h
    cases h with
    | missingVerb required absent => exact compile_eq_of_not_admits (not_admits_iff.2 ⟨required, absent⟩)
    | emptyRecord insert params empty =>
      rw [compile_eq_malformedInsert_iff, Sql.declaredParameters_eq_error_iff]
      exact ⟨insert, _, _, params, rfl, Sql.blames_singleton_iff.2 ⟨empty, rfl⟩⟩
    | rows insert params blamed =>
      rw [compile_eq_malformedInsert_iff, Sql.declaredParameters_eq_error_iff]
      exact ⟨insert, _, _, params, rfl, blamed⟩

/-- The reasons hang on the verb, the parameters and the policy alone. -/
theorem Refuses.congr {other : Clauses} {e : StatementError} (verb : other.verb? = clauses.verb?)
    (params : other.params? = clauses.params?) (h : Refuses policy clauses e) : Refuses policy other e := by
  cases h with
  | missingVerb required absent => exact .missingVerb required (verb.trans absent)
  | emptyRecord insert has empty => exact .emptyRecord (verb.trans insert) (params.trans has) empty
  | rows insert has blamed => exact .rows (verb.trans insert) (params.trans has) blamed

theorem exists_refuses_iff :
    (∃ e, Refuses policy clauses e) ↔ policy.requiresVerb = true ∧ clauses.verb? = none ∨
      clauses.verb? = some .insert ∧
        ((∃ record, clauses.params? = some (.map record) ∧ record.columns = []) ∨
          ∃ records, clauses.params? = some (.rows records) ∧ ¬ Sql.Uniform records) := by
  simp only [← Sql.exists_blames_iff]
  constructor
  · rintro ⟨e, h⟩
    cases h with
    | missingVerb required absent => exact .inl ⟨required, absent⟩
    | emptyRecord insert params empty => exact .inr ⟨insert, .inl ⟨_, params, empty⟩⟩
    | rows insert params blamed => exact .inr ⟨insert, .inr ⟨_, params, _, blamed⟩⟩
  · rintro (⟨required, absent⟩ | ⟨insert, ⟨record, params, empty⟩ | ⟨records, params, fault, blamed⟩⟩)
    · exact ⟨_, .missingVerb required absent⟩
    · exact ⟨_, .emptyRecord insert params empty⟩
    · exact ⟨_, .rows insert params blamed⟩

theorem compile_eq_of_verb {verb : Verb} (h : clauses.verb? = some verb) (policy other : CompilePolicy) :
    compile policy clauses = compile other clauses := by
  rw [compile_eq_of_admits (admits_of_verb clauses h), compile_eq_of_admits (admits_of_verb clauses h)]

/-- A statement is refused for the reasons given and no others. Without a verb the policy decides. With a verb the
policy does not matter, and only an insert is refused: of a record without columns, of no rows, of rows one of which
has no columns, or of rows two of which differ in their columns. Of the clauses only the verb and the parameters have
a say, so the parameters are read whether there is a table or not. -/
theorem compile_refuses_exactly (policy : CompilePolicy) (clauses : Clauses) :
    (∀ e, compile policy clauses = .error e ↔ Refuses policy clauses e) ∧
    ((∃ e, compile policy clauses = .error e) ↔
      policy.requiresVerb = true ∧ clauses.verb? = none ∨
      clauses.verb? = some .insert ∧
        ((∃ record, clauses.params? = some (.map record) ∧ record.columns = []) ∨
          ∃ records, clauses.params? = some (.rows records) ∧
            (records = [] ∨ (∃ row ∈ records, row.columns = []) ∨
              ∃ first ∈ records, ∃ second ∈ records, ∃ column, column ∈ first.columns ∧ column ∉ second.columns))) ∧
    (InsertFault.noRows.message = "no rows to insert" ∧
      (∀ row, (InsertFault.emptyRow row).message = "row " ++ toString row ++ " has no columns") ∧
      ∀ row column, (InsertFault.missingColumn row column).message =
        "row " ++ toString row ++ " is missing column '" ++ column ++ "'") ∧
    (∀ other : Clauses, other.verb? = clauses.verb? → other.params? = clauses.params? →
      ∀ e, compile policy other = .error e ↔ compile policy clauses = .error e) ∧
    (clauses.verb?.isSome = true → ∀ other, compile other clauses = compile policy clauses) := by
  refine ⟨fun _ => compile_eq_error_iff, ?_, ⟨rfl, fun _ => rfl, fun _ _ => rfl⟩, ?_, ?_⟩
  · simp only [compile_eq_error_iff, exists_refuses_iff, Sql.not_uniform_iff]
  · intro other verb params e
    rw [compile_eq_error_iff, compile_eq_error_iff]
    exact ⟨Refuses.congr verb.symm params.symm, Refuses.congr verb params⟩
  · intro declared other
    obtain ⟨verb, hverb⟩ := Option.isSome_iff_exists.1 declared
    exact compile_eq_of_verb hverb other policy

/-- Three rows, the first of which lacks a column of the second. -/
def raggedRows : List Record :=
  [.ofEntries [("a", .int 1), ("b", .int 2)], .ofEntries [("c", .int 3), ("a", .int 4)],
    .ofEntries [("a", .int 5)]]

/-- An insert of these rows that names no table. -/
def raggedInsert : Clauses := .ofList [.params (.rows raggedRows), .verb .insert, .limit "LIMIT 1"]

theorem compile_refuses_exactly_ragged :
    compile {} raggedInsert = .error (.malformedInsert (.missingColumn 0 "c")) ∧
    (StatementError.malformedInsert (.missingColumn 0 "c")).message =
      "Malformed insert shape: row 0 is missing column 'c'" ∧
    compile .strict raggedInsert = .error (.malformedInsert (.missingColumn 0 "c")) ∧
    compile .strict (raggedInsert.store (.table "t")) = .error (.malformedInsert (.missingColumn 0 "c")) := by
  obtain ⟨reason, -, -, -, any_policy⟩ := compile_refuses_exactly {} raggedInsert
  obtain ⟨-, -, -, others, -⟩ := compile_refuses_exactly .strict raggedInsert
  have blamed : Sql.Blames raggedRows (.missingColumn 0 "c") :=
    @Sql.Blames.missingColumn raggedRows [] _ _ "c" rfl (by decide) (by decide) (by simp)
  have refused := (reason _).2 (.rows rfl rfl blamed)
  have strict := (any_policy rfl .strict).trans refused
  exact ⟨refused, rfl, strict, (others (raggedInsert.store (.table "t")) rfl rfl _).2 strict⟩

end SqlBuilder

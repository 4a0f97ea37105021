import SqlBuilder.Proofs.Clause.Storing
import SqlBuilder.Proofs.Sql.Separation

/-!
# A single row, in a list or by itself

A list of one record says the same as the record, except as the assignments of an update: there the record
is written with literals and the list with raw texts, and what stands in a quoted cell gets out.

* `Payload.count_quote_assignments` : each quoted cell has two quotes more as a literal than as a raw text.
* `Sql.parameters_single_row` : for any other verb the list and the record have the same parameters.
* `compile_single_row` : the two statements are the same, unless an update has a cell to quote.
-/

namespace SqlBuilder

set_option autoImplicit false

/-! ## Assignments with literals and with raw texts -/

namespace Payload

theorem count_quote_assignments (r : Record) :
    (assignments Value.literal r).toList.count '\'' =
      (assignments Value.rawText r).toList.count '\'' + 2 * r.entries.countP fun entry => entry.2.isQuoted := by
  unfold assignments
  induction r.entries with
  | nil => rfl
  | cons entry entries ih =>
    have cell := Value.count_quote_literal entry.2
    rw [List.map_cons, List.map_cons, Text.count_intercalate_cons (by decide),
      Text.count_intercalate_cons (by decide), ih, List.countP_cons]
    simp only [String.toList_append, List.count_append, cell]
    split <;> omega

theorem assignments_eq_of_not_quoted {r : Record} (h : ∀ entry ∈ r.entries, entry.2.isQuoted = false) :
    assignments Value.rawText r = assignments Value.literal r := by
  have same : ∀ entry ∈ r.entries,
      entry.1 ++ " = " ++ entry.2.rawText = entry.1 ++ " = " ++ entry.2.literal := by
    intro entry hentry
    rw [Value.literal_eq_rawText (h entry hentry)]
  exact congrArg _ (List.map_congr_left same)

/-- The quotes tell literals and raw texts apart, also when blank characters are left out. -/
theorem not_quoted_of_solid_eq {r : Record}
    (h : Text.solid (assignments Value.rawText r) = Text.solid (assignments Value.literal r)) :
    ∀ entry ∈ r.entries, entry.2.isQuoted = false := by
  have counts := congrArg (List.count '\'') h
  rw [Text.count_solid Text.isBlank_quote, Text.count_solid Text.isBlank_quote, count_quote_assignments] at counts
  have none_quoted : r.entries.countP (fun entry => entry.2.isQuoted) = 0 := by omega
  rw [List.countP_eq_zero] at none_quoted
  intro entry hentry
  simpa using none_quoted entry hentry

end Payload

/-! ## The parameters of a single row -/

namespace Sql

theorem verbatim_single_row (r : Record) : (Payload.rows [r]).verbatim = Payload.assignments Value.rawText r := by
  rw [Payload.verbatim, List.map_singleton, String.intercalate_singleton]

theorem condition_single_row (r : Record) : condition (.rows [r]) = predicates r := by
  rw [condition, List.map_singleton, String.intercalate_singleton]

theorem conditionClause?_single_row (r : Record) : conditionClause? (.rows [r]) = conditionClause? (.map r) := by
  rw [conditionClause?, conditionClause?, condition_single_row, condition]

theorem parameters_single_row {verb : Option Verb} (h : verb ≠ some .update) (r : Record) :
    parameters verb (.rows [r]) = parameters verb (.map r) := by
  cases verb with
  | none => exact congrArg Except.ok (verbatim_single_row r)
  | some verb =>
    cases verb with
    | insert => rfl
    | select => exact congrArg (fun text => Except.ok (text ++ " FROM")) (verbatim_single_row r)
    | update => exact absurd rfl h
    | delete => exact congrArg Except.ok (verbatim_single_row r)
    | drop => exact congrArg Except.ok (verbatim_single_row r)

theorem updateParameters_single_row (r : Record) :
    updateParameters (.rows [r]) = "SET " ++ Payload.assignments Value.rawText r :=
  congrArg ("SET " ++ ·) (verbatim_single_row r)

/-- What is solid in one fragment of a statement can be told from the whole text. -/
theorem solid_eq_of_assemble_eq {clauses : Clauses} (hverb : clauses.verb? = some .update) {s t : String}
    (h : assemble (fragmentsWith clauses (some s)) = assemble (fragmentsWith clauses (some t))) :
    Text.solid s = Text.solid t := by
  have split_at (head rest : List Fragment) (text : String) :
      Text.solid (assemble (head ++ ⟨text, .spaced⟩ :: rest)) =
        (head.flatMap fun f => Text.solid f.text) ++ (Text.solid text ++ rest.flatMap fun f => Text.solid f.text) := by
    rw [solid_assemble, List.flatMap_append, List.flatMap_cons]
  have solid := congrArg Text.solid h
  rw [fragmentsWith_eq hverb (by decide), fragmentsWith_eq hverb (by decide), split_at, split_at] at solid
  exact List.append_cancel_right (List.append_cancel_left solid)

end Sql

/-! ## The statement -/

/-- A list of one record and the record itself are the same condition, and the same parameters but for one case: an
update writes the list with raw texts, so the statements differ exactly when a cell has to be quoted. -/
theorem compile_single_row (policy : CompilePolicy) (clauses : Clauses) (r : Record) :
    compile policy (clauses.store (.filter (.rows [r]))) = compile policy (clauses.store (.filter (.map r))) ∧
    (compile policy (clauses.store (.params (.rows [r]))) = compile policy (clauses.store (.params (.map r))) ↔
      (clauses.verb? = some .update → ∀ entry ∈ r.entries, entry.2.isQuoted = false)) ∧
    (clauses.verb? = some .update →
      compile policy (clauses.store (.params (.rows [r]))) = .ok (Sql.assemble
        (Sql.fragmentsWith clauses (some ("SET " ++ Payload.assignments Value.rawText r)))) ∧
      compile policy (clauses.store (.params (.map r))) = .ok (Sql.assemble
        (Sql.fragmentsWith clauses (some ("SET " ++ Payload.assignments Value.literal r))))) := by
  have as_list (hverb : clauses.verb? = some .update) : compile policy (clauses.store (.params (.rows [r]))) =
      .ok (Sql.assemble (Sql.fragmentsWith clauses (some ("SET " ++ Payload.assignments Value.rawText r)))) := by
    rw [compile_update_params clauses _ policy hverb, Sql.updateParameters_single_row]
  have as_record (hverb : clauses.verb? = some .update) : compile policy (clauses.store (.params (.map r))) =
      .ok (Sql.assemble (Sql.fragmentsWith clauses (some ("SET " ++ Payload.assignments Value.literal r)))) :=
    compile_update_params clauses _ policy hverb
  refine ⟨compile_store_filter clauses policy (Sql.conditionClause?_single_row r), ⟨?_, ?_⟩,
    fun hverb => ⟨as_list hverb, as_record hverb⟩⟩
  · intro same hverb
    rw [as_list hverb, as_record hverb] at same
    have solid := Sql.solid_eq_of_assemble_eq hverb (Except.ok.inj same)
    rw [Text.solid_append, Text.solid_append] at solid
    exact Payload.not_quoted_of_solid_eq (List.append_cancel_left solid)
  · intro unquoted
    by_cases hverb : clauses.verb? = some .update
    · rw [as_list hverb, as_record hverb, Payload.assignments_eq_of_not_quoted (unquoted hverb)]
    · by_cases admits : policy.Admits clauses
      · rw [compile_store_params clauses _ admits, compile_store_params clauses _ admits,
          Sql.parameters_single_row hverb]
      · rw [compile_store_params_of_not_admits clauses _ admits, compile_store_params_of_not_admits clauses _ admits]

/-- An update without assignments. -/
def bareUpdate : Clauses := .ofList [.verb .update, .table "users", .filter (.text "id = 1")]

theorem compile_single_row_numbers :
    compile .strict (bareUpdate.store (.params (.rows [.ofEntries [("n", .int 7), ("seen", .raw "NOW()")]]))) =
      compile .strict (bareUpdate.store (.params (.map (.ofEntries [("n", .int 7), ("seen", .raw "NOW()")])))) :=
  (compile_single_row .strict bareUpdate _).2.1.2 fun _ => by decide

/-- In a list of one record a quote in a text ends up in the statement. -/
theorem single_row_leaves_its_literal :
    compile .strict (bareUpdate.store (.params (.rows [.ofEntries [("name", .text "x', admin = 'yes")]]))) =
      .ok "UPDATE users SET name = x', admin = 'yes WHERE id = 1" ∧
    compile .strict (bareUpdate.store (.params (.map (.ofEntries [("name", .text "x', admin = 'yes")])))) =
      .ok "UPDATE users SET name = 'x\\', admin = \\'yes' WHERE id = 1" ∧
    ¬ ∀ (policy : CompilePolicy) (clauses : Clauses) (r : Record),
      compile policy (clauses.store (.params (.rows [r]))) = compile policy (clauses.store (.params (.map r))) := by
  have as_list : compile .strict
      (bareUpdate.store (.params (.rows [.ofEntries [("name", .text "x', admin = 'yes")]]))) =
      .ok "UPDATE users SET name = x', admin = 'yes WHERE id = 1" := rfl
  have as_record : compile .strict
      (bareUpdate.store (.params (.map (.ofEntries [("name", .text "x', admin = 'yes")])))) =
      .ok "UPDATE users SET name = 'x\\', admin = \\'yes' WHERE id = 1" := rfl
  refine ⟨as_list, as_record, ?_⟩
  intro same
  have texts := same .strict bareUpdate (.ofEntries [("name", .text "x', admin = 'yes")])
  rw [as_list, as_record] at texts
  exact absurd (Except.ok.inj texts) (by decide)

end SqlBuilder

import SqlBuilder.Proofs.Clause.Removing
import SqlBuilder.Proofs.Sql.Assembly
import SqlBuilder.Proofs.Sql.Compilation
import SqlBuilder.Proofs.Sql.Predicates

/-!
# Conditions in a statement

A condition that says something is a fragment of its statement, behind its keyword and without blank characters at its
ends. A condition that says nothing leaves no trace.

* `Sql.beforeCondition`, `Sql.afterCondition` : the fragments on both sides of the condition.
* `Sql.Emits`, `Sql.emits_iff` : a statement with a condition among its fragments.
* `Sql.fragmentsWith_without_filter` : the fragments of a statement whose condition is removed.
* `condition_emitted_iff` : when a condition is emitted, how it looks, and what is left without it.
-/

namespace SqlBuilder

set_option autoImplicit false

namespace Sql

variable {clauses : Clauses}

/-! ## The place of the condition -/

/-- The keyword, the table and the parameters. -/
def beforeCondition (clauses : Clauses) (parameters : Option String) : List Fragment :=
  spaced (clauses.verb?.map Verb.keyword) ++ target clauses.verb? clauses.table? parameters

/-- The custom fragments, the ordering and the limit. -/
def afterCondition (clauses : Clauses) : List Fragment :=
  clauses.customs.map customFragment ++ spaced clauses.order? ++ spaced clauses.limit?

theorem fragmentsWith_around (clauses : Clauses) (parameters : Option String) :
    fragmentsWith clauses parameters = beforeCondition clauses parameters ++
      (spaced (clauses.filter?.bind conditionClause?) ++ afterCondition clauses) := by
  simp only [fragmentsWith, beforeCondition, afterCondition, List.append_assoc]

/-- The statement has the text as a fragment in the place of the condition, whatever its parameters are. -/
def Emits (clauses : Clauses) (text : String) : Prop :=
  ∀ parameters, fragmentsWith clauses parameters =
    beforeCondition clauses parameters ++ ⟨text, .spaced⟩ :: afterCondition clauses

theorem emits_iff {text : String} : Emits clauses text ↔ clauses.filter?.bind conditionClause? = some text := by
  constructor
  · intro emitted
    have fragments := emitted none
    rw [fragmentsWith_around, List.append_cancel_left_eq, ← List.singleton_append, List.append_cancel_right_eq]
      at fragments
    cases hclause : clauses.filter?.bind conditionClause? with
    | none =>
      rw [hclause] at fragments
      cases fragments
    | some sql =>
      rw [hclause] at fragments
      cases fragments
      rfl
  · intro hclause parameters
    rw [fragmentsWith_around, hclause]
    rfl

/-! ## The statement without its condition -/

open Clause

theorem verb?_without_filter : (clauses.without (.kind .filter)).verb? = clauses.verb? :=
  clauses.findSome?_without_of_ne readsSlot_verb? (by decide)

theorem declaredParameters_without_filter :
    declaredParameters (clauses.without (.kind .filter)) = declaredParameters clauses := by
  have params : (clauses.without (.kind .filter)).params? = clauses.params? :=
    clauses.findSome?_without_of_ne readsSlot_params? (by decide)
  rw [declaredParameters, declaredParameters, params, verb?_without_filter]

theorem fragmentsWith_without_filter (parameters : Option String) :
    fragmentsWith (clauses.without (.kind .filter)) parameters =
      beforeCondition clauses parameters ++ afterCondition clauses := by
  have table : (clauses.without (.kind .filter)).table? = clauses.table? :=
    clauses.findSome?_without_of_ne readsSlot_table? (by decide)
  have filter : (clauses.without (.kind .filter)).filter? = none := clauses.findSome?_without_self readsSlot_filter?
  have order : (clauses.without (.kind .filter)).order? = clauses.order? :=
    clauses.findSome?_without_of_ne readsSlot_order? (by decide)
  have limit : (clauses.without (.kind .filter)).limit? = clauses.limit? :=
    clauses.findSome?_without_of_ne readsSlot_limit? (by decide)
  rw [fragmentsWith_around, filter, beforeCondition, afterCondition, verb?_without_filter, table, order, limit,
    clauses.customs_without_kind]
  rfl

end Sql

variable {policy : CompilePolicy} {clauses : Clauses}

theorem compile_without_filter (h : clauses.filter?.bind Sql.conditionClause? = none) :
    compile policy (clauses.without (.kind .filter)) = compile policy clauses := by
  have fragments : Sql.fragmentsWith (clauses.without (.kind .filter)) = Sql.fragmentsWith clauses := by
    funext parameters
    rw [Sql.fragmentsWith_without_filter, Sql.fragmentsWith_around, h]
    rfl
  rw [compile, compile, Sql.fragments, Sql.fragments, Sql.verb?_without_filter, Sql.declaredParameters_without_filter,
    fragments]

/-- A condition that is not blank is seen in the text of the statement. -/
theorem compile_without_filter_ne {text : String} (h : clauses.filter?.bind Sql.conditionClause? = some text)
    (hsolid : Text.HasSolid text) {sql : String} (hsql : compile policy clauses = .ok sql) :
    compile policy (clauses.without (.kind .filter)) ≠ .ok sql := by
  intro hwithout
  obtain ⟨-, parameters, hparameters, rfl⟩ := compile_eq_ok_iff.1 hsql
  obtain ⟨-, others, hothers, same⟩ := compile_eq_ok_iff.1 hwithout
  rw [Sql.declaredParameters_without_filter, hparameters] at hothers
  cases hothers
  rw [Sql.fragmentsWith_without_filter, Sql.fragmentsWith_around, h] at same
  -- Assembling keeps what is solid, so the texts differ in length by what is solid in the condition.
  have lengths := congrArg (fun s => (Text.solid s).length) same
  simp only [Sql.solid_assemble, List.flatMap_append, List.length_append, Sql.spaced, Option.toList_some, List.map_cons,
    List.map_nil, List.flatMap_singleton] at lengths
  have positive : 0 < (Text.solid text).length := List.length_pos_iff.2 (Text.hasSolid_iff.1 hsolid)
  omega

/-- A statement has a condition among its fragments exactly if the payload of the condition says something: a text that
is not blank, a list with a value that is not, or a record with an entry for a column or with a fragment that is not.
The condition is then its keyword and a text that is not empty and has no blank characters at its ends, and it is seen
in the statement. Otherwise the statement is the same as without the clause. -/
theorem condition_emitted_iff (policy : CompilePolicy) (clauses : Clauses) (payload : Payload)
    (h : clauses.filter? = some payload) :
    ((∃ text, Sql.Emits clauses text) ↔ payload.SaysSomething) ∧
    (∀ text, Sql.Emits clauses text →
      ∃ body, text = "WHERE " ++ body ∧ body ≠ "" ∧ Text.Trimmed body.toList) ∧
    (payload.SaysSomething → ∀ sql, compile policy clauses = .ok sql →
      compile policy (clauses.without (.kind .filter)) ≠ .ok sql) ∧
    (¬ payload.SaysSomething → compile policy clauses = compile policy (clauses.without (.kind .filter))) := by
  have clause : clauses.filter?.bind Sql.conditionClause? = Sql.conditionClause? payload := by
    rw [h, Option.bind_some]
  have emits (text : String) : Sql.Emits clauses text ↔
      payload.SaysSomething ∧ text = "WHERE " ++ Text.trim (Sql.condition payload) := by
    rw [Sql.emits_iff, clause, Sql.conditionClause?_eq_some_iff]
  refine ⟨⟨?_, ?_⟩, ?_, ?_, ?_⟩
  · rintro ⟨text, emitted⟩
    exact ((emits text).1 emitted).1
  · intro said
    exact ⟨_, (emits _).2 ⟨said, rfl⟩⟩
  · intro text emitted
    obtain ⟨said, rfl⟩ := (emits text).1 emitted
    exact ⟨_, rfl, Sql.trim_condition_ne_empty said, Text.trimmed_trim _⟩
  · intro said sql
    have keyword : Text.HasSolid "WHERE " := ⟨'W', by decide, by decide⟩
    exact compile_without_filter_ne (clause.trans (Sql.conditionClause?_eq_some_iff.2 ⟨said, rfl⟩))
      (Text.hasSolid_append.2 (.inl keyword))
  · intro silent
    exact (compile_without_filter (clause.trans (Sql.conditionClause?_eq_none_iff.2 silent))).symm

/-- A deletion with a condition. -/
def deletion (payload : Payload) : Clauses := .ofList [.verb .delete, .table "users", .filter payload]

/-- Rows without entries and with a fragment that is an ideographic space. -/
def blankRows : Payload := .rows [.empty, .ofEntries [("0", .raw "\u3000")]]

/-- A line feed before a fragment. -/
def lineThenFragment : Payload := .list [.text "\n", .raw "id = 5 "]

theorem condition_emitted_iff_deletion :
    (∃ text, Sql.Emits (deletion lineThenFragment) text) ∧
    compile .strict ((deletion lineThenFragment).without (.kind .filter)) ≠ .ok "DELETE FROM users WHERE id = 5" ∧
    compile .strict (deletion blankRows) = compile .strict ((deletion blankRows).without (.kind .filter)) := by
  obtain ⟨emitted, -, seen, -⟩ := condition_emitted_iff .strict (deletion lineThenFragment) lineThenFragment rfl
  obtain ⟨-, -, -, unseen⟩ := condition_emitted_iff .strict (deletion blankRows) blankRows rfl
  exact ⟨emitted.2 (by decide), seen (by decide) _ rfl, unseen (by decide)⟩

end SqlBuilder

import SqlBuilder.Sql.Fragments

/-!
# What a compilation reads

The text of declared clauses hangs on what was declared last in each slot and on nothing else.

* `compile_eq_of_admits`, `compile_eq_ok_iff`, `compile_eq_error_iff_of_admits` : the result when the policy lets the
  clauses pass.
* `compile_eq_of_update` : an update always has a text.
* `compile_congr` : two sets of clauses with the same contents compile alike, in whatever order they stand.
-/

namespace SqlBuilder

set_option autoImplicit false

variable {policy : CompilePolicy} {clauses first second : Clauses}

def CompilePolicy.Admits (policy : CompilePolicy) (clauses : Clauses) : Prop :=
  policy.requiresVerb = true → clauses.verb?.isSome = true

theorem admits_iff : policy.Admits clauses ↔ (policy.requiresVerb && clauses.verb?.isNone) = false := by
  unfold CompilePolicy.Admits
  cases policy.requiresVerb <;> cases clauses.verb? <;> simp

theorem admits_of_verb (clauses : Clauses) {verb : Verb} (h : clauses.verb? = some verb) : policy.Admits clauses := by
  intro _
  rw [h]
  rfl

theorem compile_eq_of_admits (h : policy.Admits clauses) :
    compile policy clauses =
      ((Sql.declaredParameters clauses).map fun parameters =>
        Sql.assemble (Sql.fragmentsWith clauses parameters)).mapError StatementError.malformedInsert := by
  rw [compile, admits_iff.1 h, Sql.fragments]
  cases Sql.declaredParameters clauses <;> rfl

theorem compile_eq_of_not_admits (h : ¬ policy.Admits clauses) : compile policy clauses = .error .missingVerb := by
  have refused : (policy.requiresVerb && clauses.verb?.isNone) = true := by
    rwa [admits_iff, Bool.not_eq_false] at h
  rw [compile, refused, if_pos rfl]

theorem compile_eq_ok_iff {sql : String} :
    compile policy clauses = .ok sql ↔ policy.Admits clauses ∧ ∃ parameters,
      Sql.declaredParameters clauses = .ok parameters ∧
      sql = Sql.assemble (Sql.fragmentsWith clauses parameters) := by
  by_cases h : policy.Admits clauses
  · rw [compile_eq_of_admits h]
    constructor
    · intro hsql
      cases hdeclared : Sql.declaredParameters clauses with
      | error fault =>
        rw [hdeclared] at hsql
        cases hsql
      | ok parameters =>
        rw [hdeclared] at hsql
        exact ⟨h, parameters, rfl, (Except.ok.inj hsql).symm⟩
    · rintro ⟨-, parameters, hdeclared, rfl⟩
      rw [hdeclared]
      rfl
  · rw [compile_eq_of_not_admits h]
    simp [h]

theorem compile_eq_of_update {payload : Payload} (policy : CompilePolicy) (hverb : clauses.verb? = some .update)
    (hparams : clauses.params? = some payload) :
    compile policy clauses =
      .ok (Sql.assemble (Sql.fragmentsWith clauses (some (Sql.updateParameters payload)))) := by
  rw [compile_eq_ok_iff]
  refine ⟨admits_of_verb clauses hverb, _, ?_, rfl⟩
  rw [Sql.declaredParameters, hparams, hverb]
  rfl

theorem compile_eq_error_iff_of_admits (h : policy.Admits clauses) {e : StatementError} :
    compile policy clauses = .error e ↔
      ∃ fault, Sql.declaredParameters clauses = .error fault ∧ e = .malformedInsert fault := by
  rw [compile_eq_of_admits h]
  cases Sql.declaredParameters clauses with
  | error fault =>
    constructor
    · intro he
      exact ⟨fault, rfl, (Except.error.inj he).symm⟩
    · rintro ⟨other, hother, rfl⟩
      cases hother
      rfl
  | ok parameters =>
    constructor
    · intro he
      cases he
    · rintro ⟨other, hother, -⟩
      cases hother

/-- What stands in the slots decides the text, or the error; of a condition only its text counts. -/
theorem compile_congr (policy : CompilePolicy) (verb : first.verb? = second.verb?)
    (table : first.table? = second.table?) (params : first.params? = second.params?)
    (condition : first.filter?.bind Sql.conditionClause? = second.filter?.bind Sql.conditionClause?)
    (customs : first.customs = second.customs)
    (order : first.order? = second.order?) (limit : first.limit? = second.limit?) :
    compile policy first = compile policy second := by
  have declared : Sql.declaredParameters first = Sql.declaredParameters second := by
    rw [Sql.declaredParameters, Sql.declaredParameters, params, verb]
  have fragments : Sql.fragmentsWith first = Sql.fragmentsWith second := by
    funext parameters
    rw [Sql.fragmentsWith, Sql.fragmentsWith, verb, table, condition, customs, order, limit]
  rw [compile, compile, Sql.fragments, Sql.fragments, verb, declared, fragments]

end SqlBuilder

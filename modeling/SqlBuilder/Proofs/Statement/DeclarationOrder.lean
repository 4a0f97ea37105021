import SqlBuilder.Proofs.Clause.History
import SqlBuilder.Proofs.Sql.Compilation
import SqlBuilder.Statement

/-!
# The order of declarations

A statement can be declared in any order and with any number of changes of mind. Its text hangs on what was
declared last of each kind, and on the custom fragments in the order of their labels.

* `Statement.declareAll` : a statement after a history of declarations.
* `Clause.SameOutcome` : the same is left of two histories.
* `compile_order_independent` : two such histories compile to the same text, or fail alike.
-/

namespace SqlBuilder

set_option autoImplicit false

/-! ## Histories of which the same is left -/

namespace Clause

/-- The same is left of two histories. -/
structure SameOutcome (first second : List Clause) : Prop where
  verb : last? verb? first = last? verb? second
  table : last? table? first = last? table? second
  params : last? params? first = last? params? second
  filter : last? filter? first = last? filter? second
  limit : last? limit? first = last? limit? second
  order : last? order? first = last? order? second
  customs : lastCustoms first = lastCustoms second

theorem ReadsSlot.last?_perm {β : Type} {part : Clause → Option β} {s : Slot} (h : ReadsSlot part s)
    {first second : List Clause} (hperm : first.Perm second) (hslots : (first.map slot).Nodup) :
    last? part first = last? part second := by
  have hreverse : first.reverse.Perm second.reverse :=
    (first.reverse_perm.trans hperm).trans second.reverse_perm.symm
  have hnodup : (first.reverse.map slot).Nodup := (first.reverse_perm.map slot).nodup_iff.2 hslots
  rw [last?, last?, h.findSome?_eq, h.findSome?_eq, find?_perm hreverse hnodup s]

/-- Declarations in pairwise different slots can be permuted, as long as the custom fragments keep their order. -/
theorem sameOutcome_of_perm {first second : List Clause} (hperm : first.Perm second)
    (hslots : (first.map slot).Nodup) (hcustoms : first.filterMap custom? = second.filterMap custom?) :
    SameOutcome first second where
  verb := readsSlot_verb?.last?_perm hperm hslots
  table := readsSlot_table?.last?_perm hperm hslots
  params := readsSlot_params?.last?_perm hperm hslots
  filter := readsSlot_filter?.last?_perm hperm hslots
  limit := readsSlot_limit?.last?_perm hperm hslots
  order := readsSlot_order?.last?_perm hperm hslots
  customs := by rw [lastCustoms, lastCustoms, hcustoms]

end Clause

/-! ## The text after a history -/

def Statement.declareAll (s : Statement) (history : List Clause) : Statement := history.foldl declare s

theorem Statement.clauses_declareAll (s : Statement) (history : List Clause) :
    (s.declareAll history).clauses = s.clauses.putAll history ∧ (s.declareAll history).policy = s.policy := by
  induction history generalizing s with
  | nil => exact ⟨rfl, rfl⟩
  | cons clause history ih => exact ih (s.declare clause)

theorem Statement.compile_declareAll (policy : CompilePolicy) (history : List Clause) :
    (({ policy } : Statement).declareAll history).compile = SqlBuilder.compile policy (Clauses.ofHistory history) := by
  obtain ⟨clauses, kept⟩ := clauses_declareAll { policy } history
  rw [compile, clauses, kept]
  rfl

theorem compile_ofHistory_congr (policy : CompilePolicy) {first second : List Clause}
    (h : Clause.SameOutcome first second) :
    compile policy (Clauses.ofHistory first) = compile policy (Clauses.ofHistory second) := by
  apply compile_congr
  · rw [Clauses.verb?_ofHistory, Clauses.verb?_ofHistory, h.verb]
  · rw [Clauses.table?_ofHistory, Clauses.table?_ofHistory, h.table]
  · rw [Clauses.params?_ofHistory, Clauses.params?_ofHistory, h.params]
  · rw [Clauses.filter?_ofHistory, Clauses.filter?_ofHistory, h.filter]
  · rw [Clauses.customs_ofHistory, Clauses.customs_ofHistory, h.customs]
  · rw [Clauses.order?_ofHistory, Clauses.order?_ofHistory, h.order]
  · rw [Clauses.limit?_ofHistory, Clauses.limit?_ofHistory, h.limit]

/-- The order of declarations does not matter. Two histories of which the same is left compile alike; in
particular declarations in different slots can be permuted, as long as the custom fragments keep their order.
The parameters are those that were declared last, rendered for the verb that was declared last. -/
theorem compile_order_independent (policy : CompilePolicy) (first second : List Clause) :
    (Clause.SameOutcome first second →
      (({ policy } : Statement).declareAll first).compile = (({ policy } : Statement).declareAll second).compile) ∧
    (first.Perm second → (first.map Clause.slot).Nodup →
      first.filterMap Clause.custom? = second.filterMap Clause.custom? →
      (({ policy } : Statement).declareAll first).compile = (({ policy } : Statement).declareAll second).compile) ∧
    (∀ payload, Clause.last? Clause.params? first = some payload →
      (policy.requiresVerb = true → (Clause.last? Clause.verb? first).isSome = true) →
      (({ policy } : Statement).declareAll first).compile =
        ((Sql.parameters (Clause.last? Clause.verb? first) payload).map fun text =>
          Sql.assemble (Sql.fragmentsWith (({ policy } : Statement).declareAll first).clauses (some text))).mapError
            StatementError.malformedInsert) := by
  have congr : Clause.SameOutcome first second →
      (({ policy } : Statement).declareAll first).compile =
        (({ policy } : Statement).declareAll second).compile := by
    intro h
    rw [Statement.compile_declareAll, Statement.compile_declareAll]
    exact compile_ofHistory_congr policy h
  refine ⟨congr, ?_, ?_⟩
  · intro hperm hslots hcustoms
    exact congr (Clause.sameOutcome_of_perm hperm hslots hcustoms)
  · intro payload hpayload hverb
    have admits : policy.Admits (Clauses.ofHistory first) := by
      rwa [CompilePolicy.Admits, Clauses.verb?_ofHistory]
    have declared : Sql.declaredParameters (Clauses.ofHistory first) =
        (Sql.parameters (Clause.last? Clause.verb? first) payload).map some := by
      rw [Sql.declaredParameters, Clauses.params?_ofHistory, Clauses.verb?_ofHistory, hpayload]
    rw [Statement.compile_declareAll, compile_eq_of_admits admits, declared,
      (Statement.clauses_declareAll { policy } first).1]
    cases Sql.parameters (Clause.last? Clause.verb? first) payload <;> rfl

/-- Declarations with changes of mind: the table and the verb are declared twice, and the parameters come before
the verb for which they are rendered. -/
def hesitantHistory : List Clause :=
  [.params (.list [.text "a"]), .custom ⟨"lock", "FOR SHARE", true⟩, .table "first", .verb .select, .table "second",
    .verb .insert, .custom ⟨"tail", "!", false⟩, .custom ⟨"lock", "FOR UPDATE", true⟩]

/-- The same declarations without the changes of mind. -/
def decidedHistory : List Clause :=
  [.verb .insert, .table "second", .custom ⟨"lock", "FOR UPDATE", true⟩, .custom ⟨"tail", "!", false⟩,
    .params (.list [.text "a"])]

/-- The decided declarations with the parameters first. -/
def shuffledHistory : List Clause :=
  [.params (.list [.text "a"]), .verb .insert, .table "second", .custom ⟨"lock", "FOR UPDATE", true⟩,
    .custom ⟨"tail", "!", false⟩]

theorem compile_order_independent_hesitant :
    (({ policy := .strict } : Statement).declareAll hesitantHistory).compile =
      (({ policy := .strict } : Statement).declareAll decidedHistory).compile ∧
    (({ policy := .strict } : Statement).declareAll decidedHistory).compile =
      (({ policy := .strict } : Statement).declareAll shuffledHistory).compile ∧
    (({ policy := .strict } : Statement).declareAll hesitantHistory).compile =
      .ok "INSERT INTO second VALUES ('a') FOR UPDATE !" := by
  have outcome : Clause.SameOutcome hesitantHistory decidedHistory :=
    ⟨rfl, rfl, rfl, rfl, rfl, rfl, by decide⟩
  have shuffled : decidedHistory.Perm shuffledHistory :=
    List.perm_append_singleton (Clause.params (.list [.text "a"])) (decidedHistory.take 4)
  refine ⟨(compile_order_independent .strict _ _).1 outcome,
    (compile_order_independent .strict _ _).2.1 shuffled (by decide) (by decide), ?_⟩
  rw [(compile_order_independent .strict hesitantHistory []).2.2 (.list [.text "a"]) rfl (fun _ => rfl)]
  rfl

end SqlBuilder

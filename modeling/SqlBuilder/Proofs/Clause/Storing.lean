import SqlBuilder.Proofs.Clause.History
import SqlBuilder.Proofs.Sql.Compilation

/-!
# One clause more

Storing a clause changes what is found in its own slot and nowhere else.

* `Clauses.findSome?_store` : a look into the slots after one more clause.
* `compile_store_params` : the text of a statement whose parameters were declared last.
* `compile_store_filter` : two payloads with the same condition are the same condition of a statement.
-/

namespace SqlBuilder

set_option autoImplicit false

namespace Clauses

open Clause

variable (clauses : Clauses)

theorem findSome?_store {β : Type} {part : Clause → Option β} {s : Slot} (h : ReadsSlot part s) (clause : Clause) :
    (clauses.store clause).toList.findSome? part =
      if clause.slot = s then part clause else clauses.toList.findSome? part := by
  have found : (clauses.store clause).toList.find? (fun c => c.slot = s) =
      if clause.slot = s then some clause else clauses.toList.find? fun c => c.slot = s :=
    KeyedList.get?_put clauses clause s
  rw [h.findSome?_eq, h.findSome?_eq, found]
  split <;> rfl

theorem findSome?_store_of_ne {β : Type} {part : Clause → Option β} {s : Slot} (h : ReadsSlot part s)
    {clause : Clause} (t : Slot) (hclause : clause.slot = t) (hs : s ≠ t) :
    (clauses.store clause).toList.findSome? part = clauses.toList.findSome? part := by
  rw [findSome?_store clauses h, hclause, if_neg hs.symm]

theorem customs_store_of_custom?_eq_none {clause : Clause} (h : clause.custom? = none) :
    (clauses.store clause).customs = clauses.customs := by
  have stored : (clauses.store clause).toList = upsert slot clause clauses.toList := rfl
  rw [customs_eq, customs_eq, stored, filterMap_custom?_upsert, h]

end Clauses

/-! ## Payloads that are declared last -/

section Payloads

open Clause

variable (clauses : Clauses) (payload : Payload)

theorem Clauses.verb?_store_params : (clauses.store (.params payload)).verb? = clauses.verb? :=
  clauses.findSome?_store_of_ne readsSlot_verb? (.kind .params) rfl (by decide)

theorem Sql.fragmentsWith_store_params :
    fragmentsWith (clauses.store (.params payload)) = fragmentsWith clauses := by
  have table : (clauses.store (.params payload)).table? = clauses.table? :=
    clauses.findSome?_store_of_ne readsSlot_table? (.kind .params) rfl (by decide)
  have filter : (clauses.store (.params payload)).filter? = clauses.filter? :=
    clauses.findSome?_store_of_ne readsSlot_filter? (.kind .params) rfl (by decide)
  have order : (clauses.store (.params payload)).order? = clauses.order? :=
    clauses.findSome?_store_of_ne readsSlot_order? (.kind .params) rfl (by decide)
  have limit : (clauses.store (.params payload)).limit? = clauses.limit? :=
    clauses.findSome?_store_of_ne readsSlot_limit? (.kind .params) rfl (by decide)
  have customs : (clauses.store (.params payload)).customs = clauses.customs :=
    clauses.customs_store_of_custom?_eq_none rfl
  funext parameters
  rw [fragmentsWith, fragmentsWith, clauses.verb?_store_params, table, filter, order, limit, customs]

theorem Sql.declaredParameters_store_params :
    declaredParameters (clauses.store (.params payload)) = (parameters clauses.verb? payload).map some := by
  have params : (clauses.store (.params payload)).params? = some payload :=
    clauses.findSome?_store readsSlot_params? (.params payload)
  rw [declaredParameters, params, clauses.verb?_store_params]

/-- Of all clauses only the verb has a say in how the parameters are written. -/
theorem compile_store_params {policy : CompilePolicy} (h : policy.Admits clauses) :
    compile policy (clauses.store (.params payload)) =
      ((Sql.parameters clauses.verb? payload).map fun text =>
        Sql.assemble (Sql.fragmentsWith clauses (some text))).mapError StatementError.malformedInsert := by
  have admits : policy.Admits (clauses.store (.params payload)) := by
    rwa [CompilePolicy.Admits, clauses.verb?_store_params]
  rw [compile_eq_of_admits admits, Sql.declaredParameters_store_params, Sql.fragmentsWith_store_params]
  cases Sql.parameters clauses.verb? payload <;> rfl

theorem compile_store_params_of_not_admits {policy : CompilePolicy} (h : ¬ policy.Admits clauses) :
    compile policy (clauses.store (.params payload)) = .error .missingVerb := by
  apply compile_eq_of_not_admits
  rwa [CompilePolicy.Admits, clauses.verb?_store_params]

theorem compile_insert_params (policy : CompilePolicy) (hverb : clauses.verb? = some .insert) :
    compile policy (clauses.store (.params payload)) =
      ((Sql.insertParameters payload).map fun text =>
        Sql.assemble (Sql.fragmentsWith clauses (some text))).mapError StatementError.malformedInsert := by
  rw [compile_store_params clauses payload (admits_of_verb clauses hverb), hverb]
  rfl

theorem compile_update_params (policy : CompilePolicy) (hverb : clauses.verb? = some .update) :
    compile policy (clauses.store (.params payload)) =
      .ok (Sql.assemble (Sql.fragmentsWith clauses (some (Sql.updateParameters payload)))) := by
  rw [compile_store_params clauses payload (admits_of_verb clauses hverb), hverb]
  rfl

theorem compile_store_filter (policy : CompilePolicy) {p q : Payload}
    (h : Sql.conditionClause? p = Sql.conditionClause? q) :
    compile policy (clauses.store (.filter p)) = compile policy (clauses.store (.filter q)) := by
  have reads {β : Type} {part : Clause → Option β} {s : Slot} (hpart : ReadsSlot part s) (hs : s ≠ .kind .filter) :
      (clauses.store (.filter p)).toList.findSome? part = (clauses.store (.filter q)).toList.findSome? part := by
    rw [clauses.findSome?_store_of_ne hpart (.kind .filter) rfl hs,
      clauses.findSome?_store_of_ne hpart (.kind .filter) rfl hs]
  apply compile_congr
  · exact reads readsSlot_verb? (by decide)
  · exact reads readsSlot_table? (by decide)
  · exact reads readsSlot_params? (by decide)
  · have filter (payload : Payload) : (clauses.store (.filter payload)).filter? = some payload :=
      clauses.findSome?_store readsSlot_filter? (.filter payload)
    rw [filter, filter, Option.bind_some, Option.bind_some, h]
  · rw [clauses.customs_store_of_custom?_eq_none rfl, clauses.customs_store_of_custom?_eq_none rfl]
  · exact reads readsSlot_order? (by decide)
  · exact reads readsSlot_limit? (by decide)

end Payloads

end SqlBuilder

import SqlBuilder.Proofs.Clause.History

/-!
# One clause less

Removing what stands in a slot changes what is found there and nowhere else.

* `Clauses.without` : the clauses without the one in a slot.
* `Clauses.findSome?_without_of_ne`, `Clauses.customs_without_kind` : looks into the other slots.
-/

namespace SqlBuilder

set_option autoImplicit false

namespace Clauses

open Clause

variable (clauses : Clauses)

/-- The clauses without the one in a slot. -/
def without (s : Slot) : Clauses :=
  ⟨clauses.toList.filter fun clause => clause.slot ≠ s, clauses.keys_nodup.sublist (List.filter_sublist.map slot)⟩

theorem toList_without (s : Slot) : (clauses.without s).toList = clauses.toList.filter fun clause => clause.slot ≠ s :=
  rfl

theorem findSome?_without_of_ne {β : Type} {part : Clause → Option β} {s t : Slot} (h : ReadsSlot part s)
    (hs : s ≠ t) : (clauses.without t).toList.findSome? part = clauses.toList.findSome? part := by
  have found : (clauses.without t).toList.find? (fun c => c.slot = s) = clauses.toList.find? fun c => c.slot = s := by
    rw [toList_without, List.find?_filter]
    congr 1
    funext clause
    by_cases hclause : clause.slot = s <;> simp [hclause, hs]
  rw [h.findSome?_eq, h.findSome?_eq, found]

theorem findSome?_without_self {β : Type} {part : Clause → Option β} {s : Slot} (h : ReadsSlot part s) :
    (clauses.without s).toList.findSome? part = none := by
  have absent : (clauses.without s).toList.find? (fun c => c.slot = s) = none := by
    simp [toList_without]
  rw [h.findSome?_eq, absent]
  rfl

theorem customs_without_kind (k : Kind) : (clauses.without (.kind k)).customs = clauses.customs := by
  rw [customs_eq, customs_eq, toList_without, List.filterMap_filter]
  congr 1
  funext clause
  split
  · rfl
  · next hslot =>
    cases hcustom : clause.custom? with
    | none => rfl
    | some fragment =>
      rw [slot_eq_of_custom? hcustom] at hslot
      simp at hslot

end Clauses

end SqlBuilder

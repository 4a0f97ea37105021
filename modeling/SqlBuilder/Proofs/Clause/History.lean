import SqlBuilder.Clause.Collection
import SqlBuilder.Proofs.KeyedList.History

/-!
# Declared clauses after a history

What is stored after a history of declarations can be told from the history alone: in each slot stands what was
declared there last.

* `Clause.ReadsSlot` : a reading of clauses that is about one slot.
* `Clause.last?`, `Clause.lastCustoms` : what is left of a history.
* `Clauses.ofHistory` : the clauses that are stored after a history; `Clauses.verb?_ofHistory`, … and
  `Clauses.customs_ofHistory` say what is found in them.
-/

namespace SqlBuilder

set_option autoImplicit false

/-! ## What a clause says -/

namespace Clause

def verb? : Clause → Option Verb
  | verb v => some v
  | _ => none

def table? : Clause → Option String
  | table name => some name
  | _ => none

def params? : Clause → Option Payload
  | params payload => some payload
  | _ => none

def filter? : Clause → Option Payload
  | filter payload => some payload
  | _ => none

def limit? : Clause → Option String
  | limit fragment => some fragment
  | _ => none

def order? : Clause → Option String
  | order fragment => some fragment
  | _ => none

def custom? : Clause → Option Custom
  | custom fragment => some fragment
  | _ => none

/-- A reading that is about one slot: the clauses in the slot, and no others, have a value. -/
def ReadsSlot {β : Type} (part : Clause → Option β) (s : Slot) : Prop :=
  ∀ clause : Clause, (part clause).isSome = true ↔ clause.slot = s

theorem readsSlot_verb? : ReadsSlot verb? (.kind .verb) := by
  intro clause
  cases clause <;> simp [verb?, slot, kind]

theorem readsSlot_table? : ReadsSlot table? (.kind .table) := by
  intro clause
  cases clause <;> simp [table?, slot, kind]

theorem readsSlot_params? : ReadsSlot params? (.kind .params) := by
  intro clause
  cases clause <;> simp [params?, slot, kind]

theorem readsSlot_filter? : ReadsSlot filter? (.kind .filter) := by
  intro clause
  cases clause <;> simp [filter?, slot, kind]

theorem readsSlot_limit? : ReadsSlot limit? (.kind .limit) := by
  intro clause
  cases clause <;> simp [limit?, slot, kind]

theorem readsSlot_order? : ReadsSlot order? (.kind .order) := by
  intro clause
  cases clause <;> simp [order?, slot, kind]

theorem slot_eq_of_custom? {clause : Clause} {fragment : Custom} (h : clause.custom? = some fragment) :
    clause.slot = .label fragment.label := by
  cases clause with
  | custom other =>
    cases h
    rfl
  | _ => cases h

theorem slot_ne_label_of_custom? {clause : Clause} (h : clause.custom? = none) (label : String) :
    clause.slot ≠ .label label := by
  cases clause <;> simp_all [custom?, slot]

/-! ## What is left of a history -/

/-- What was declared last, in one reading. -/
def last? {β : Type} (part : Clause → Option β) (history : List Clause) : Option β :=
  history.reverse.findSome? part

/-- The custom fragments that were declared last under their labels, in the order in which the labels were first
declared. -/
def lastCustoms (history : List Clause) : List Custom :=
  let customs := history.filterMap custom?
  (customs.map Custom.label).eraseDups.filterMap (KeyedList.last? Custom.label customs)

theorem ReadsSlot.findSome?_eq {β : Type} {part : Clause → Option β} {s : Slot} (h : ReadsSlot part s)
    (l : List Clause) : l.findSome? part = (l.find? fun clause => clause.slot = s).bind part := by
  induction l with
  | nil => rfl
  | cons head tail ih =>
    by_cases hs : head.slot = s
    · obtain ⟨value, hvalue⟩ := Option.isSome_iff_exists.1 ((h head).2 hs)
      rw [List.findSome?_cons, hvalue, List.find?_cons_of_pos (by simpa using hs), Option.bind_some, hvalue]
    · have hnone : part head = none := by
        rw [← Option.not_isSome_iff_eq_none]
        exact fun e => hs ((h head).1 e)
      rw [List.findSome?_cons, hnone, List.find?_cons_of_neg (by simpa using hs)]
      exact ih

end Clause

/-! ## The stored clauses after a history -/

namespace Clauses

open Clause

def ofHistory (history : List Clause) : Clauses := KeyedList.ofList history

/-- A look into the stored clauses finds what was declared last. -/
theorem findSome?_ofHistory {β : Type} {part : Clause → Option β} {s : Slot} (h : ReadsSlot part s)
    (history : List Clause) : (ofHistory history).toList.findSome? part = last? part history := by
  rw [h.findSome?_eq, last?, h.findSome?_eq]
  exact congrArg (Option.bind · part) (KeyedList.get?_ofList history s)

/-- Among the custom fragments a declared custom fragment is stored under its label. -/
theorem filterMap_custom?_upsert (clause : Clause) (l : List Clause) :
    (upsert slot clause l).filterMap custom? =
      match clause.custom? with
      | some fragment => upsert Custom.label fragment (l.filterMap custom?)
      | none => l.filterMap custom? := by
  -- A clause replaces one in its own slot only, so it replaces a custom fragment by a custom fragment of the same
  -- label, and any other clause by one that is no custom fragment either.
  induction l with
  | nil => cases h : clause.custom? <;> simp [upsert, h]
  | cons head tail ih =>
    by_cases hs : head.slot = clause.slot
    · rw [upsert, if_pos hs]
      cases hclause : clause.custom? with
      | none =>
        have hhead : head.custom? = none := by
          rw [Option.eq_none_iff_forall_ne_some]
          intro fragment e
          exact slot_ne_label_of_custom? hclause fragment.label (hs ▸ slot_eq_of_custom? e)
        rw [List.filterMap_cons_none hclause, List.filterMap_cons_none hhead]
      | some fragment =>
        have hlabel : head.slot = .label fragment.label := hs.trans (slot_eq_of_custom? hclause)
        cases hhead : head.custom? with
        | none => exact absurd hlabel (slot_ne_label_of_custom? hhead _)
        | some other =>
          have hsame : other.label = fragment.label := by
            rw [slot_eq_of_custom? hhead] at hlabel
            exact Slot.label.inj hlabel
          rw [List.filterMap_cons_some hclause, List.filterMap_cons_some hhead]
          exact (if_pos hsame).symm
    · rw [upsert, if_neg hs]
      cases hhead : head.custom? with
      | none => rw [List.filterMap_cons_none hhead, List.filterMap_cons_none hhead, ih]
      | some other =>
        rw [List.filterMap_cons_some hhead, List.filterMap_cons_some hhead, ih]
        cases hclause : clause.custom? with
        | none => rfl
        | some fragment =>
          have hne : other.label ≠ fragment.label := by
            intro e
            exact hs (by rw [slot_eq_of_custom? hhead, slot_eq_of_custom? hclause, e])
          simp only [upsert, if_neg hne]

theorem customs_eq (clauses : Clauses) : clauses.customs = clauses.toList.filterMap custom? := rfl

theorem customs_ofHistory_eq (history : List Clause) : (ofHistory history).customs =
    (KeyedList.ofList (history.filterMap custom?) : KeyedList Custom.label).toList := by
  -- From the end of the history: the last declaration is one `put`.
  induction history using List.reverseRecOn with
  | nil => rfl
  | append_singleton history clause ih =>
    rw [customs_eq] at ih ⊢
    have stored : ofHistory (history ++ [clause]) = (ofHistory history).put clause :=
      KeyedList.ofList_concat history clause
    rw [stored, KeyedList.toList_put, filterMap_custom?_upsert, ih, List.filterMap_append]
    cases h : clause.custom? with
    | none => rw [List.filterMap_cons_none h, List.filterMap_nil, List.append_nil]
    | some fragment =>
      rw [List.filterMap_cons_some h, List.filterMap_nil, KeyedList.ofList_concat, KeyedList.toList_put]

theorem customs_ofHistory (history : List Clause) : (ofHistory history).customs = lastCustoms history := by
  rw [customs_ofHistory_eq, KeyedList.toList_ofList, lastCustoms]

variable (history : List Clause)

theorem verb?_ofHistory : (ofHistory history).verb? = last? Clause.verb? history :=
  findSome?_ofHistory readsSlot_verb? history

theorem table?_ofHistory : (ofHistory history).table? = last? Clause.table? history :=
  findSome?_ofHistory readsSlot_table? history

theorem params?_ofHistory : (ofHistory history).params? = last? Clause.params? history :=
  findSome?_ofHistory readsSlot_params? history

theorem filter?_ofHistory : (ofHistory history).filter? = last? Clause.filter? history :=
  findSome?_ofHistory readsSlot_filter? history

theorem limit?_ofHistory : (ofHistory history).limit? = last? Clause.limit? history :=
  findSome?_ofHistory readsSlot_limit? history

theorem order?_ofHistory : (ofHistory history).order? = last? Clause.order? history :=
  findSome?_ofHistory readsSlot_order? history

end Clauses

end SqlBuilder

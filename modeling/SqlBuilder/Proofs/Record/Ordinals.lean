import SqlBuilder.Proofs.KeyedList.History
import SqlBuilder.Record

/-!
# Ordinal keys

A fragment is stored under the number of ordinal keys that a record has. It is put behind everything else when this
number is not a key yet; when it is, the fragment is written over what stands there.

* `Record.isOrdinalKey_toString` : numbers are ordinal keys.
* `Record.entries_set_of_not_mem`, `Record.entries_set_of_mem` : storing a value under a new key and under one that is there.
* `Record.Consecutive` : the ordinal keys are the numbers from zero on. Then the next one is not there
  (`Record.Consecutive.nextOrdinal_not_mem`), and it stays so with values under other keys and with fragments
  (`Record.Consecutive.set`, `Record.Consecutive.addFragment`).
-/

namespace SqlBuilder

set_option autoImplicit false

namespace Record

/-! ## Numbers as keys -/

theorem isOrdinalKey_toString (n : Nat) : isOrdinalKey (toString n) = true := by
  have nonempty : (toString n).toList ≠ [] := by
    rw [Nat.toString_eq_repr, Nat.toList_repr]
    exact Nat.toDigits_ne_nil
  have digits : (toString n).toList.all Char.isDigit = true := by
    rw [Nat.toString_eq_repr, Nat.toList_repr, List.all_eq_true]
    exact fun c hc => Nat.isDigit_of_mem_toDigits (by decide) (by decide) hc
  rw [isOrdinalKey, digits, Bool.and_true, Bool.not_eq_true', List.isEmpty_eq_false_iff]
  exact nonempty

theorem toString_injective : Function.Injective (toString : Nat → String) := by
  intro m n h
  have digits : Nat.toDigits 10 m = Nat.toDigits 10 n := by
    rw [← Nat.toList_repr, ← Nat.toList_repr]
    exact congrArg String.toList h
  have numbers := congrArg (fun cs => Nat.ofDigitChars 10 cs 0) digits
  simpa only [Nat.ofDigitChars_ten_toDigits] using numbers

theorem isOrdinalKey_nextOrdinal (r : Record) : isOrdinalKey r.nextOrdinal = true := isOrdinalKey_toString _

/-! ## Storing a value -/

variable {r : Record} {column : String}

theorem columns_eq_map (r : Record) : r.columns = r.entries.map Prod.fst := rfl

theorem entries_set_of_not_mem (h : column ∉ r.columns) (value : Value) :
    (r.set column value).entries = r.entries ++ [(column, value)] :=
  upsert_of_not_mem Prod.fst (column, value) r.toList h

theorem entries_set_of_mem (h : column ∈ r.columns) (value : Value) :
    (r.set column value).entries = r.entries.map fun entry => if entry.1 = column then (column, value) else entry :=
  upsert_of_mem r.keys_nodup h

theorem columns_set (r : Record) (column : String) (value : Value) :
    (r.set column value).columns = if column ∈ r.columns then r.columns else r.columns ++ [column] :=
  KeyedList.keys_put r (column, value)

/-! ## Consecutive ordinals -/

/-- The ordinal keys are the numbers from zero on, in their order. -/
def Consecutive (r : Record) : Prop :=
  r.columns.filter isOrdinalKey = (List.range (r.columns.countP isOrdinalKey)).map toString

theorem consecutive_of_not_ordinal (h : ∀ column ∈ r.columns, isOrdinalKey column = false) : r.Consecutive := by
  have none : r.columns.filter isOrdinalKey = [] := by
    rw [List.filter_eq_nil_iff]
    intro column hcolumn
    simp [h column hcolumn]
  rw [Consecutive, List.countP_eq_length_filter, none]
  rfl

theorem consecutive_empty : empty.Consecutive := consecutive_of_not_ordinal (by simp [columns, empty, KeyedList.keys])

namespace Consecutive

variable (h : r.Consecutive)
include h

theorem nextOrdinal_not_mem : r.nextOrdinal ∉ r.columns := by
  intro hmem
  have ordinal : r.nextOrdinal ∈ r.columns.filter isOrdinalKey :=
    List.mem_filter.2 ⟨hmem, isOrdinalKey_nextOrdinal r⟩
  rw [h, List.mem_map] at ordinal
  obtain ⟨n, hn, hnext⟩ := ordinal
  rw [List.mem_range, toString_injective hnext] at hn
  exact Nat.lt_irrefl _ hn

theorem set (hcolumn : isOrdinalKey column = false) (value : Value) : (r.set column value).Consecutive := by
  have kept : (r.set column value).columns.filter isOrdinalKey = r.columns.filter isOrdinalKey := by
    rw [columns_set]
    split
    · rfl
    · rw [List.filter_append, List.filter_cons_of_neg (by simp [hcolumn]), List.filter_nil, List.append_nil]
  rw [Consecutive, List.countP_eq_length_filter, kept, ← List.countP_eq_length_filter]
  exact h

theorem columns_addFragment (fragment : String) : (r.addFragment fragment).columns = r.columns ++ [r.nextOrdinal] := by
  rw [addFragment, columns_set, if_neg h.nextOrdinal_not_mem]

theorem addFragment (fragment : String) : (r.addFragment fragment).Consecutive := by
  have ordinal : ([r.nextOrdinal].countP isOrdinalKey) = 1 := by simp [isOrdinalKey_nextOrdinal]
  rw [Consecutive, h.columns_addFragment, List.filter_append, List.countP_append, ordinal, List.range_succ,
    List.map_append, ← h, List.filter_cons_of_pos (isOrdinalKey_nextOrdinal r)]
  rfl

end Consecutive

end Record

end SqlBuilder

import SqlBuilder.Proofs.Record.Ordinals
import SqlBuilder.Sql.Predicate

/-!
# Records after operations

A record is made by storing values, adding fragments, and starting over from a list of entries or from the members of
a document.

* `Record.Operation`, `Record.applyAll` : a sequence of operations, and the record it leaves.
* `Record.consecutive_applyAll` : as long as no ordinal is given as a key, the ordinal keys are those of the fragments.
* `Record.conditions` : what the entries of a record say as conditions, one by one.
* `Record.Appends` : a fragment that is put behind what is there; `Record.appends_iff` : when this is so.
* `addFragment_appends_iff` : what adding a fragment does to a record, after any operations.
-/

namespace SqlBuilder

set_option autoImplicit false

namespace Record

/-! ## Sequences of operations -/

inductive Operation where
  | set (column : String) (value : Value)
  | addFragment (fragment : String)
  /-- A new record from entries. -/
  | collect (entries : List (String × Value))
  /-- A new record from the members of a document. -/
  | convert (members : List (String × Json))

/-- The keys that an operation names itself. -/
def Operation.named : Operation → List String
  | set column _ => [column]
  | addFragment _ => []
  | collect entries => entries.map Prod.fst
  | convert members => members.map Prod.fst

def apply (r : Record) : Operation → Record
  | .set column value => r.set column value
  | .addFragment fragment => r.addFragment fragment
  | .collect entries => .ofEntries entries
  | .convert members => .ofMembers members

/-- The record after operations that start from the empty one. -/
def applyAll (operations : List Operation) : Record := operations.foldl apply empty

theorem applyAll_concat (operations : List Operation) (operation : Operation) :
    applyAll (operations ++ [operation]) = (applyAll operations).apply operation := by
  rw [applyAll, List.foldl_concat]
  rfl

theorem columns_ofEntries (entries : List (String × Value)) :
    (ofEntries entries).columns = (entries.map Prod.fst).eraseDups :=
  KeyedList.keys_ofList entries

theorem columns_ofMembers (members : List (String × Json)) :
    (ofMembers members).columns = (members.map Prod.fst).eraseDups := by
  rw [ofMembers, columns_ofEntries, List.map_map]
  rfl

theorem Consecutive.apply {r : Record} (h : r.Consecutive) {operation : Operation}
    (hnamed : ∀ column ∈ operation.named, isOrdinalKey column = false) : (r.apply operation).Consecutive := by
  cases operation with
  | set column value => exact h.set (hnamed column (List.mem_singleton_self column)) value
  | addFragment fragment => exact h.addFragment fragment
  | collect entries =>
    apply consecutive_of_not_ordinal
    intro column hcolumn
    rw [Record.apply, columns_ofEntries, List.mem_eraseDups] at hcolumn
    exact hnamed column hcolumn
  | convert members =>
    apply consecutive_of_not_ordinal
    intro column hcolumn
    rw [Record.apply, columns_ofMembers, List.mem_eraseDups] at hcolumn
    exact hnamed column hcolumn

theorem consecutive_applyAll {operations : List Operation}
    (h : ∀ operation ∈ operations, ∀ column ∈ operation.named, isOrdinalKey column = false) :
    (applyAll operations).Consecutive := by
  induction operations using List.reverseRecOn with
  | nil => exact consecutive_empty
  | append_singleton operations operation ih =>
    rw [applyAll_concat]
    apply Consecutive.apply
    · exact ih fun o ho => h o (List.mem_append_left _ ho)
    · exact h operation (List.mem_append_right _ (List.mem_singleton_self operation))

/-! ## One fragment more -/

/-- The conditions that a record stands for, one for each entry. -/
def conditions (r : Record) : List String := r.entries.map fun entry => Sql.predicate entry.1 entry.2

theorem predicates_eq (r : Record) : Sql.predicates r = " ".intercalate r.conditions := rfl

theorem predicate_ordinal {key : String} (h : isOrdinalKey key = true) (fragment : String) :
    Sql.predicate key (.raw fragment) = fragment := by
  rw [Sql.predicate, if_pos h]
  rfl

/-- Adding the fragment leaves all entries as they are and puts the fragment behind them, under an ordinal that was no
key before. -/
def Appends (r : Record) (fragment : String) : Prop :=
  ∃ key, isOrdinalKey key = true ∧ key ∉ r.columns ∧
    (r.addFragment fragment).entries = r.entries ++ [(key, .raw fragment)]

variable {r : Record} {fragment : String}

theorem entries_addFragment_of_not_mem (h : r.nextOrdinal ∉ r.columns) (fragment : String) :
    (r.addFragment fragment).entries = r.entries ++ [(r.nextOrdinal, .raw fragment)] :=
  entries_set_of_not_mem h (.raw fragment)

theorem appends_iff : r.Appends fragment ↔ r.nextOrdinal ∉ r.columns := by
  constructor
  · rintro ⟨key, -, -, hentries⟩ hmem
    -- Over a key that is there nothing is put behind the others, so the record would be longer than it is.
    have columns : (r.addFragment fragment).columns = r.columns := by rw [addFragment, columns_set, if_pos hmem]
    rw [columns_eq_map, columns_eq_map, hentries, List.map_append] at columns
    exact absurd columns (by simp)
  · intro h
    exact ⟨r.nextOrdinal, isOrdinalKey_nextOrdinal r, h, entries_addFragment_of_not_mem h fragment⟩

theorem Consecutive.appends (h : r.Consecutive) (fragment : String) : r.Appends fragment :=
  appends_iff.2 h.nextOrdinal_not_mem

theorem Appends.conditions_addFragment (h : r.Appends fragment) :
    (r.addFragment fragment).conditions = r.conditions ++ [fragment] := by
  obtain ⟨key, hkey, -, hentries⟩ := h
  rw [conditions, hentries, List.map_append, List.map_singleton, predicate_ordinal hkey]
  rfl

end Record

section Fragments
open Record

/-- A fragment is put behind what is there, as one condition more, exactly when the number of ordinal keys is not a key
itself; this is so as long as no ordinal is named as a key. Otherwise the fragment is written over the entry with that
key, and all other entries stay as they are. -/
theorem addFragment_appends_iff (operations : List Operation) (fragment : String) :
    ((applyAll operations).Appends fragment ↔ (applyAll operations).nextOrdinal ∉ (applyAll operations).columns) ∧
    ((applyAll operations).Appends fragment →
      ((applyAll operations).addFragment fragment).conditions = (applyAll operations).conditions ++ [fragment]) ∧
    ((∀ operation ∈ operations, ∀ column ∈ operation.named, isOrdinalKey column = false) →
      (applyAll operations).Appends fragment) ∧
    ((applyAll operations).nextOrdinal ∈ (applyAll operations).columns →
      ((applyAll operations).addFragment fragment).entries = (applyAll operations).entries.map fun entry =>
        if entry.1 = (applyAll operations).nextOrdinal then ((applyAll operations).nextOrdinal, .raw fragment)
        else entry) := by
  refine ⟨appends_iff, Appends.conditions_addFragment, ?_, ?_⟩
  · intro hnamed
    exact (consecutive_applyAll hnamed).appends fragment
  · intro hmem
    exact entries_set_of_mem hmem (.raw fragment)

end Fragments

/-- Two fragments with a column between them. -/
def threeConditions : List Record.Operation := [.addFragment "age > 18", .set "id" (.int 5), .addFragment "AND active"]

/-- A condition under a key that is a number. -/
def keyedByNumber : List Record.Operation := [.set "1" (.raw "tenant = 7 AND")]

theorem addFragment_appends_or_replaces :
    ((Record.applyAll threeConditions).addFragment "LIMIT 1").conditions =
      ["age > 18", "id = 5", "AND active", "LIMIT 1"] ∧
    ((Record.applyAll keyedByNumber).addFragment "age > 18").entries = [("1", .raw "age > 18")] := by
  obtain ⟨-, conditions, appends, -⟩ := addFragment_appends_iff threeConditions "LIMIT 1"
  obtain ⟨-, -, -, replaces⟩ := addFragment_appends_iff keyedByNumber "age > 18"
  constructor
  · rw [conditions (appends (by decide))]
    decide +kernel
  · rw [replaces (by decide +kernel)]
    rfl

/-- The next fragment is written over a condition whose key is the number of ordinal keys. -/
theorem addFragment_loses_condition :
    Sql.conditionClause? (.map (Record.applyAll keyedByNumber)) = some "WHERE tenant = 7 AND" ∧
    Sql.conditionClause? (.map ((Record.applyAll keyedByNumber).addFragment "age > 18")) = some "WHERE age > 18" ∧
    ¬ ∀ operations fragment, (Record.applyAll operations).Appends fragment := by
  refine ⟨by decide +kernel, by decide +kernel, ?_⟩
  intro appends
  have fresh := Record.appends_iff.1 (appends keyedByNumber "age > 18")
  exact fresh (by decide +kernel)

end SqlBuilder

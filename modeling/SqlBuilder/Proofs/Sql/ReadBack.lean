import SqlBuilder.Proofs.Sql.Compilation
import SqlBuilder.Proofs.Sql.Tuples

/-!
# The rows of an insert are read back

What an insert writes after `VALUES` is one list of tuples, which a reader of tuples takes apart again: one
tuple for each row and one item for each column, the item being the literal of the value in that cell. No
text and no document in a cell can end its own item, open a tuple, or run into the next cell.

* `Payload.Tabulates payload columns table` : the table of values that a payload describes.
* `insert_reads_back` : the tuples that are written are the literals of that table.
-/

namespace SqlBuilder

set_option autoImplicit false

/-! ## Payloads as tables -/

namespace Payload

def cells : Payload → List Value
  | text _ => []
  | list items => items
  | map record => record.entries.map Prod.snd
  | rows records => records.flatMap fun record => record.entries.map Prod.snd

/-- Rows, one record, or a list that is not empty. -/
def IsTabular : Payload → Prop
  | text _ => False
  | list items => items ≠ []
  | map _ | rows _ => True

/-- A payload as a table of values: a tuple for each record, with a value for each column; a list is one
tuple without columns. -/
inductive Tabulates : Payload → Option (List String) → List (List Value) → Prop
  | rows {records : List Record} {columns : List String} {table : List (List Value)} (nodup : columns.Nodup)
      (laid : List.Forall₂ (Sql.Laid columns) records table) : Tabulates (.rows records) (some columns) table
  | map {record : Record} {columns : List String} {row : List Value} (nodup : columns.Nodup)
      (laid : Sql.Laid columns record row) : Tabulates (.map record) (some columns) [row]
  | list (items : List Value) : Tabulates (.list items) none [items]

end Payload

namespace Sql

/-- What stands before `VALUES`. -/
def columnList : Option (List String) → String
  | none => ""
  | some columns => bracketed columns ++ " "

def tupleList (table : List (List Value)) : String :=
  ",".intercalate (table.map fun row => bracketed (row.map Value.literal))

theorem readTuples?_tupleList {table : List (List Value)} (htable : table ≠ []) (hrows : ∀ row ∈ table, row ≠ [])
    (hraw : ∀ row ∈ table, ∀ v ∈ row, v.isRaw = false) :
    readTuples? (tupleList table) = some (table.map (List.map Value.literal)) := by
  have tuples_eq : tupleList table = ",".intercalate ((table.map (List.map Value.literal)).map bracketed) := by
    rw [tupleList, List.map_map]
    rfl
  rw [tuples_eq]
  apply readTuples?_bracketed
  · exact fun h => htable (List.map_eq_nil_iff.1 h)
  · intro tuple ht
    obtain ⟨row, hrow, rfl⟩ := List.mem_map.1 ht
    exact fun h => hrows row hrow (List.map_eq_nil_iff.1 h)
  · intro tuple ht item hitem
    obtain ⟨row, hrow, rfl⟩ := List.mem_map.1 ht
    obtain ⟨v, hv, rfl⟩ := List.mem_map.1 hitem
    exact readable_literal (hraw row hrow v hv)

/-! ## Rows of records -/

theorem ne_nil_of_laid {columns : List String} {records : List Record} {table : List (List Value)}
    (h : List.Forall₂ (Laid columns) records table) (hcolumns : columns ≠ []) : ∀ row ∈ table, row ≠ [] := by
  intro row hrow hnil
  obtain ⟨i, hi, rfl⟩ := List.mem_iff_getElem.1 hrow
  have hlen := h.length_eq
  have cells := (h.get (by omega) hi).cells.length_eq
  rw [List.get_eq_getElem, hnil, List.length_nil] at cells
  exact hcolumns (List.length_eq_zero_iff.1 cells)

/-- The values of a table are values of the records. -/
theorem mem_cells_of_laid {columns : List String} {records : List Record} {table : List (List Value)}
    (h : List.Forall₂ (Laid columns) records table) {row : List Value} (hrow : row ∈ table) {v : Value}
    (hv : v ∈ row) : v ∈ (Payload.rows records).cells := by
  obtain ⟨i, hi, rfl⟩ := List.mem_iff_getElem.1 hrow
  obtain ⟨j, hj, rfl⟩ := List.mem_iff_getElem.1 hv
  have hlen := h.length_eq
  have laid := h.get (by omega : i < records.length) hi
  have hwidth := laid.cells.length_eq
  have cell := laid.cells.get (by rw [hwidth]; exact hj) hj
  have hentry := mem_entries_of_get? cell
  exact List.mem_flatMap.2 ⟨records[i], List.getElem_mem _, List.mem_map.2 ⟨_, hentry, rfl⟩⟩

theorem valuesClause_reads_back {records : List Record} {text : String} (h : valuesClause records = .ok text)
    (hraw : ∀ v ∈ (Payload.rows records).cells, v.isRaw = false) :
    ∃ columns table, columns.Nodup ∧ List.Forall₂ (Laid columns) records table ∧
      text = columnList (some columns) ++ "VALUES " ++ tupleList table ∧
      readTuples? (tupleList table) = some (table.map (List.map Value.literal)) := by
  obtain ⟨table, hrecords, hcolumns, laid, rfl⟩ := laid_of_valuesClause h
  have htable : table ≠ [] := by
    rintro rfl
    exact hrecords (List.forall₂_nil_right_iff.1 laid)
  refine ⟨columnsOf records, table, nodup_columnsOf records, laid, ?_, ?_⟩
  · have hspace : " VALUES " = " " ++ "VALUES " := by decide
    rw [columnList, hspace, ← String.append_assoc]
    rfl
  · apply readTuples?_tupleList htable (ne_nil_of_laid laid hcolumns)
    exact fun row hrow v hv => hraw v (mem_cells_of_laid laid hrow hv)

theorem insertParameters_reads_back {payload : Payload} {text : String} (h : insertParameters payload = .ok text)
    (htabular : payload.IsTabular) (hraw : ∀ v ∈ payload.cells, v.isRaw = false) :
    ∃ columns table, payload.Tabulates columns table ∧
      text = columnList columns ++ "VALUES " ++ tupleList table ∧
      readTuples? (tupleList table) = some (table.map (List.map Value.literal)) := by
  cases payload with
  | text sql => exact htabular.elim
  | list items =>
    cases h
    refine ⟨none, [items], .list items, ?_, ?_⟩
    · rw [columnList, tupleList, List.map_singleton, String.intercalate_singleton, String.empty_append]
    · have htable : ∀ row ∈ [items], row ≠ [] := by simpa [Payload.IsTabular] using htabular
      exact readTuples?_tupleList (List.cons_ne_nil _ _) htable (by simpa [Payload.cells] using hraw)
  | map record =>
    have hcells : (Payload.rows [record]).cells = (Payload.map record).cells := List.flatMap_singleton ..
    obtain ⟨columns, table, nodup, laid, htext, hread⟩ := valuesClause_reads_back h (hcells ▸ hraw)
    obtain ⟨row, rest, hrow, hrest, rfl⟩ := List.forall₂_cons_left_iff.1 laid
    cases List.forall₂_nil_left_iff.1 hrest
    exact ⟨some columns, [row], .map nodup hrow, htext, hread⟩
  | rows records =>
    obtain ⟨columns, table, nodup, laid, htext, hread⟩ := valuesClause_reads_back h hraw
    exact ⟨some columns, table, .rows nodup laid, htext, hread⟩

end Sql

/-! ## The text of an insert -/

/-- The text of an insert holds the tuples of its table, and they are read back cell by cell. -/
theorem insert_reads_back (policy : CompilePolicy) (clauses : Clauses) (payload : Payload) (sql : String)
    (hverb : clauses.verb? = some .insert) (hparams : clauses.params? = some payload)
    (htabular : payload.IsTabular) (hraw : ∀ v ∈ payload.cells, v.isRaw = false)
    (hsql : compile policy clauses = .ok sql) :
    ∃ columns table tail, payload.Tabulates columns table ∧
      Sql.declaredParameters clauses = .ok (some (Sql.columnList columns ++ "VALUES " ++ tail)) ∧
      sql = Sql.assemble (Sql.fragmentsWith clauses (some (Sql.columnList columns ++ "VALUES " ++ tail))) ∧
      Sql.readTuples? tail = some (table.map (List.map Value.literal)) := by
  obtain ⟨-, parameters, hdeclared, rfl⟩ := compile_eq_ok_iff.1 hsql
  have hinsert : Sql.declaredParameters clauses = (Sql.insertParameters payload).map some := by
    rw [Sql.declaredParameters, hparams, hverb]
    rfl
  cases htext : Sql.insertParameters payload with
  | error fault =>
    rw [hinsert, htext] at hdeclared
    cases hdeclared
  | ok text =>
    obtain ⟨columns, table, tabulates, rfl, hread⟩ := Sql.insertParameters_reads_back htext htabular hraw
    rw [hinsert, htext] at hdeclared
    cases hdeclared
    refine ⟨columns, table, Sql.tupleList table, tabulates, ?_, rfl, hread⟩
    rw [hinsert, htext]
    rfl

/-- Rows whose cells try to leave their literals. -/
def hostileRows : List Record :=
  [.ofEntries [("name", .text "x'),('\\"), ("data", .json (.string "', \\'(")), ("n", .int (-3))],
   .ofEntries [("n", .int 4), ("data", .json (.array [])), ("name", .text "'); --")]]

def hostileInsert : Clauses :=
  ((Clauses.empty.store (.params (.rows hostileRows))).store (.table "t")).store (.verb .insert)

theorem insert_reads_back_hostile : ∃ columns table tail, (Payload.rows hostileRows).Tabulates columns table ∧
    Sql.declaredParameters hostileInsert = .ok (some (Sql.columnList columns ++ "VALUES " ++ tail)) ∧
    Sql.readTuples? tail = some (table.map (List.map Value.literal)) := by
  have compiled : ∃ sql, compile {} hostileInsert = .ok sql := ⟨_, rfl⟩
  obtain ⟨sql, hsql⟩ := compiled
  obtain ⟨columns, table, tail, tabulates, declared, -, read⟩ :=
    insert_reads_back {} hostileInsert (.rows hostileRows) sql rfl rfl trivial (by decide) hsql
  exact ⟨columns, table, tail, tabulates, declared, read⟩

end SqlBuilder

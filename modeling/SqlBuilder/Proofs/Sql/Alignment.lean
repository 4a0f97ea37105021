import SqlBuilder.Proofs.Sql.Rows

/-!
# Rows under the columns of the first

The columns of an insert are collected from all rows, yet a clause that is written has the columns of its first row:
every other row has the same ones, in an order of its own, and is laid out in the order of the first.

* `Uniform.columnsOf_cons`, `uniform_cons_iff` : the columns of uniform records are those of the first.
* `valuesClause_cons_eq_ok_iff` : when a clause is written, told from the first row.
* `insert_aligns_rows` : what is written, and what becomes of it when entries or rows are reordered.
-/

namespace SqlBuilder

set_option autoImplicit false

namespace Sql

variable {first : Record} {rest : List Record} {text : String}

/-! ## The columns of the first row -/

theorem Uniform.columnsOf_cons (h : Uniform (first :: rest)) : columnsOf (first :: rest) = first.columns := by
  have nothing_new : (rest.flatMap Record.columns).removeAll first.columns = [] := by
    rw [List.removeAll, List.filter_eq_nil_iff]
    intro column hcolumn
    obtain ⟨record, hrecord, hmem⟩ := List.mem_flatMap.1 hcolumn
    simpa using h.alike record (List.mem_cons_of_mem first hrecord) first List.mem_cons_self hmem
  have once : first.columns.eraseDups = first.columns := KeyedList.eraseDups_keys first
  rw [columnsOf_eq, List.flatMap_cons, List.eraseDups_append, nothing_new, once, List.eraseDups_nil, List.append_nil]

theorem uniform_cons_iff :
    Uniform (first :: rest) ↔ first.columns ≠ [] ∧ ∀ record ∈ rest, record.columns.Perm first.columns := by
  constructor
  · intro h
    refine ⟨h.filled first List.mem_cons_self, ?_⟩
    intro record hrecord
    have hmem := List.mem_cons_of_mem first hrecord
    have nodup (r : Record) : r.columns.Nodup := r.keys_nodup
    rw [List.perm_ext_iff_of_nodup (nodup record) (nodup first)]
    intro column
    constructor
    · exact fun hcolumn => h.alike record hmem first List.mem_cons_self hcolumn
    · exact fun hcolumn => h.alike first List.mem_cons_self record hmem hcolumn
  · rintro ⟨filled, aligned⟩
    have perm : ∀ record ∈ first :: rest, record.columns.Perm first.columns := by
      rw [List.forall_mem_cons]
      exact ⟨.refl _, aligned⟩
    refine ⟨List.cons_ne_nil _ _, ?_, ?_⟩
    · intro record hrecord hnil
      have empty := perm record hrecord
      rw [hnil] at empty
      exact filled empty.nil_eq.symm
    · exact fun one hone other hother =>
        ((perm one hone).trans (perm other hother).symm).subset

theorem valuesClause_cons_eq_ok_iff :
    valuesClause (first :: rest) = .ok text ↔
      first.columns ≠ [] ∧ (∀ record ∈ rest, record.columns.Perm first.columns) ∧
      text = bracketed first.columns ++ " VALUES " ++
        ",".intercalate ((first :: rest).map (tupleUnder first.columns)) := by
  rw [valuesClause_eq_ok_iff, ← and_assoc, ← uniform_cons_iff]
  constructor
  · rintro ⟨uniform, rfl⟩
    rw [uniform.columnsOf_cons]
    exact ⟨uniform, rfl⟩
  · rintro ⟨uniform, rfl⟩
    rw [uniform.columnsOf_cons]
    exact ⟨uniform, rfl⟩

/-! ## Entries in another order -/

theorem get?_eq_of_perm {r s : Record} (h : r.entries.Perm s.entries) (column : String) :
    r.get? column = s.get? column :=
  congrArg (Option.map Prod.snd) (find?_perm h r.keys_nodup column)

theorem tupleUnder_eq_of_perm {r s : Record} (h : r.entries.Perm s.entries) (columns : List String) :
    tupleUnder columns r = tupleUnder columns s := by
  have same : r.get? = s.get? := funext (get?_eq_of_perm h)
  rw [tupleUnder, tupleUnder, valuesUnder, valuesUnder, same]

/-- Each row of the second list has the entries of its row in the first, in whatever order. -/
def Reordered (rows others : List Record) : Prop :=
  List.Forall₂ (fun row other => row.entries.Perm other.entries) rows others

theorem Reordered.map_tupleUnder {rows others : List Record} (h : Reordered rows others) (columns : List String) :
    others.map (tupleUnder columns) = rows.map (tupleUnder columns) := by
  induction h with
  | nil => rfl
  | cons same _ ih => rw [List.map_cons, List.map_cons, ih, tupleUnder_eq_of_perm same]

theorem Reordered.columns_perm {rows others : List Record} (h : Reordered rows others) {columns : List String}
    (aligned : ∀ row ∈ rows, row.columns.Perm columns) : ∀ other ∈ others, other.columns.Perm columns := by
  induction h with
  | nil =>
    intro other hother
    cases hother
  | cons same _ ih =>
    rw [List.forall_mem_cons] at aligned ⊢
    exact ⟨(same.map Prod.fst).symm.trans aligned.1, ih aligned.2⟩

end Sql

/-- A clause that is written for rows has the columns of the first row, each once and in its order. Every row has these
columns and no others, and its tuple lists the literals of its values in their order. So the order of the entries
matters in the first row only, and when the other rows change places, so do their tuples and nothing else. -/
theorem insert_aligns_rows (first : Record) (rest : List Record) (text : String)
    (h : Sql.valuesClause (first :: rest) = .ok text) :
    Sql.columnsOf (first :: rest) = first.columns ∧ (Sql.columnsOf (first :: rest)).Nodup ∧
    (∀ row ∈ first :: rest, row.columns.Perm first.columns ∧
      List.Forall₂ (fun column value => row.get? column = some value) first.columns
        (Sql.valuesUnder first.columns row)) ∧
    text = Sql.bracketed first.columns ++ " VALUES " ++ ",".intercalate ((first :: rest).map fun row =>
      Sql.bracketed ((Sql.valuesUnder first.columns row).map Value.literal)) ∧
    (∀ others, Sql.Reordered rest others → Sql.valuesClause (first :: others) = .ok text) ∧
    (∀ others, rest.Perm others → Sql.valuesClause (first :: others) =
      .ok (Sql.bracketed first.columns ++ " VALUES " ++ ",".intercalate ((first :: others).map fun row =>
        Sql.bracketed ((Sql.valuesUnder first.columns row).map Value.literal)))) := by
  obtain ⟨filled, aligned, rfl⟩ := Sql.valuesClause_cons_eq_ok_iff.1 h
  have columns := (Sql.uniform_cons_iff.2 ⟨filled, aligned⟩).columnsOf_cons
  have perm : ∀ row ∈ first :: rest, row.columns.Perm first.columns := by
    rw [List.forall_mem_cons]
    exact ⟨.refl _, aligned⟩
  refine ⟨columns, Sql.nodup_columnsOf _, ?_, rfl, ?_, ?_⟩
  · exact fun row hrow => ⟨perm row hrow, Sql.forall₂_valuesUnder (perm row hrow).symm.subset⟩
  · intro others reordered
    rw [Sql.valuesClause_cons_eq_ok_iff, List.map_cons, List.map_cons, reordered.map_tupleUnder]
    exact ⟨filled, reordered.columns_perm aligned, rfl⟩
  · intro others moved
    rw [Sql.valuesClause_cons_eq_ok_iff]
    exact ⟨filled, fun other hother => aligned other (moved.mem_iff.2 hother), rfl⟩

/-- A row that comes first, and two rows with the same columns in another order. -/
def leadingRow : Record := .ofEntries [("a", .int 1), ("b", .text "x"), ("c", .null)]

def turnedRow : Record := .ofEntries [("c", .raw "NOW()"), ("a", .int 2), ("b", .text "'")]

def swappedRow : Record := .ofEntries [("b", .bool true), ("a", .int 3), ("c", .null)]

theorem insert_aligns_rows_three :
    Sql.valuesClause [leadingRow, turnedRow, swappedRow] =
      .ok "(a,b,c) VALUES (1,'x',null),(2,'\\'',NOW()),(3,true,null)" ∧
    Sql.columnsOf [leadingRow, turnedRow, swappedRow] = leadingRow.columns ∧
    Sql.valuesClause [leadingRow, swappedRow, turnedRow] =
      .ok "(a,b,c) VALUES (1,'x',null),(3,true,null),(2,'\\'',NOW())" ∧
    Sql.valuesClause [leadingRow, .ofEntries turnedRow.entries.reverse, swappedRow] =
      .ok "(a,b,c) VALUES (1,'x',null),(2,'\\'',NOW()),(3,true,null)" := by
  have written : Sql.valuesClause [leadingRow, turnedRow, swappedRow] =
      .ok "(a,b,c) VALUES (1,'x',null),(2,'\\'',NOW()),(3,true,null)" := rfl
  obtain ⟨columns, -, -, -, reordered, moved⟩ := insert_aligns_rows _ _ _ written
  refine ⟨written, columns, moved [swappedRow, turnedRow] (.swap _ _ _), ?_⟩
  exact reordered [.ofEntries turnedRow.entries.reverse, swappedRow]
    (.cons turnedRow.entries.reverse_perm.symm (.cons (.refl _) .nil))

end SqlBuilder

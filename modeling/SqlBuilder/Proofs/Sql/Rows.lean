import Mathlib.Data.List.Forall2
import SqlBuilder.Proofs.KeyedList.History
import SqlBuilder.Sql.Rows

/-!
# What an insert of rows writes

Records either go under one list of columns, and then the clause is written, or there is a first fault in them, and
then it is reported.

* `columnsOf_eq`, `mem_columnsOf`, `nodup_columnsOf` : the columns of all records, each once.
* `valuesUnder`, `tupleUnder` : the values of a record under columns, and how they are written.
* `Uniform`, `Blames` : records that go under one list of columns, and the first fault of records that do not.
* `valuesClause_eq_ok_iff`, `valuesClause_eq_error_iff` : when the clause is written, and what is reported otherwise.
* `Laid columns record row` : the values of a record, laid out under columns.
* `laid_of_valuesClause` : a clause that is written lays out every record under the columns of all.
-/

namespace SqlBuilder.Sql

set_option autoImplicit false

/-! ## Columns -/

theorem columnsOf_eq (records : List Record) : columnsOf records = (records.flatMap Record.columns).eraseDups := by
  have flat : columnsOf records = (records.flatMap Record.columns).foldl
      (fun done column => if column ∈ done then done else done ++ [column]) [] := List.foldl_flatMap.symm
  rw [flat]
  induction records.flatMap Record.columns using List.reverseRecOn with
  | nil => rfl
  | append_singleton columns column ih =>
    rw [List.foldl_concat, ih, eraseDups_concat]
    simp only [List.mem_eraseDups]

theorem mem_columnsOf {records : List Record} {column : String} :
    column ∈ columnsOf records ↔ ∃ record ∈ records, column ∈ record.columns := by
  rw [columnsOf_eq, List.mem_eraseDups, List.mem_flatMap]

theorem nodup_columnsOf (records : List Record) : (columnsOf records).Nodup := by
  have stored : (KeyedList.ofList (records.flatMap Record.columns) : KeyedList id).keys = columnsOf records := by
    rw [KeyedList.keys_ofList, List.map_id, columnsOf_eq]
  rw [← stored]
  exact KeyedList.keys_nodup _

/-! ## Values under columns -/

theorem mem_entries_of_get? {record : Record} {column : String} {value : Value}
    (h : record.get? column = some value) : (column, value) ∈ record.entries := by
  rw [Record.get?, Option.map_eq_some_iff] at h
  obtain ⟨entry, found, rfl⟩ := h
  have key : entry.1 = column := by simpa using List.find?_some found
  subst key
  exact List.mem_of_find?_eq_some found

variable {columns : List String} {record : Record} {records : List Record} {column : String}

theorem get?_eq_none_iff : record.get? column = none ↔ column ∉ record.columns := by
  rw [Record.get?, Option.map_eq_none_iff, KeyedList.get?, List.find?_eq_none, Record.columns, KeyedList.keys,
    List.mem_map, not_exists]
  simp

theorem exists_get?_of_mem (h : column ∈ record.columns) : ∃ value, record.get? column = some value := by
  rw [← Option.ne_none_iff_exists', ne_eq, get?_eq_none_iff]
  exact not_not.2 h

def valuesUnder (columns : List String) (record : Record) : List Value := columns.filterMap record.get?

def tupleUnder (columns : List String) (record : Record) : String :=
  bracketed ((valuesUnder columns record).map Value.literal)

theorem forall₂_valuesUnder (h : columns ⊆ record.columns) :
    List.Forall₂ (fun column value => record.get? column = some value) columns (valuesUnder columns record) := by
  unfold valuesUnder
  induction columns with
  | nil => exact .nil
  | cons column columns ih =>
    rw [List.cons_subset] at h
    obtain ⟨value, found⟩ := exists_get?_of_mem h.1
    rw [List.filterMap_cons_some found]
    exact .cons found (ih h.2)

/-! ## Literals and tuples -/

theorem literals_of_subset (row : Nat) (h : columns ⊆ record.columns) :
    literals row record columns = .ok ((valuesUnder columns record).map Value.literal) := by
  induction columns with
  | nil => rfl
  | cons column columns ih =>
    rw [List.cons_subset] at h
    obtain ⟨value, found⟩ := exists_get?_of_mem h.1
    rw [literals, found, valuesUnder, List.filterMap_cons_some found, ih h.2]
    rfl

theorem literals_of_lacks (row : Nat) (h : columns.find? (fun c => c ∉ record.columns) = some column) :
    literals row record columns = .error (.missingColumn row column) := by
  induction columns with
  | nil => cases h
  | cons c columns ih =>
    rw [literals]
    by_cases hc : c ∈ record.columns
    · obtain ⟨value, found⟩ := exists_get?_of_mem hc
      rw [List.find?_cons_of_neg (by simpa using hc)] at h
      rw [found, ih h]
      rfl
    · rw [List.find?_cons_of_pos (by simpa using hc)] at h
      cases h
      rw [get?_eq_none_iff.2 hc]

theorem tuples_of_subset (row : Nat) (h : ∀ record ∈ records, columns ⊆ record.columns) :
    tuples columns row records = .ok (records.map (tupleUnder columns)) := by
  induction records generalizing row with
  | nil => rfl
  | cons record records ih =>
    rw [tuples, literals_of_subset row (h record List.mem_cons_self),
      ih (row + 1) fun r hr => h r (List.mem_cons_of_mem record hr)]
    rfl

theorem tuples_of_lacks {before : List Record} (after : List Record) (row : Nat)
    (earlier : ∀ r ∈ before, columns ⊆ r.columns)
    (h : columns.find? (fun c => c ∉ record.columns) = some column) :
    tuples columns row (before ++ record :: after) = .error (.missingColumn (row + before.length) column) := by
  induction before generalizing row with
  | nil =>
    rw [List.nil_append, tuples, literals_of_lacks row h]
    rfl
  | cons first before ih =>
    have rest := ih (row + 1) fun r hr => earlier r (List.mem_cons_of_mem first hr)
    rw [List.cons_append, tuples, literals_of_subset row (earlier first List.mem_cons_self), rest, List.length_cons,
      Nat.add_right_comm, Nat.add_assoc]
    rfl

/-! ## Uniform records and the fault of others -/

/-- Records that go under one list of columns. -/
structure Uniform (records : List Record) : Prop where
  ne_nil : records ≠ []
  filled : ∀ record ∈ records, record.columns ≠ []
  alike : ∀ first ∈ records, ∀ second ∈ records, first.columns ⊆ second.columns

/-- The first fault of records that do not go under one list of columns. A record without columns counts before a
record that lacks a column, and of these the first record and its first missing column, as columns are met. -/
inductive Blames : List Record → InsertFault → Prop
  | noRows : Blames [] .noRows
  | emptyRow {records before after : List Record} {record : Record} (split : records = before ++ record :: after)
      (empty : record.columns = []) (earlier : ∀ r ∈ before, r.columns ≠ []) :
      Blames records (.emptyRow before.length)
  | missingColumn {records before after : List Record} {record : Record} {column : String}
      (split : records = before ++ record :: after) (filled : ∀ r ∈ records, r.columns ≠ [])
      (lacks : (records.flatMap Record.columns).eraseDups.find? (fun c => c ∉ record.columns) = some column)
      (earlier : ∀ r ∈ before, ∀ other ∈ records, other.columns ⊆ r.columns) :
      Blames records (.missingColumn before.length column)

theorem columnsOf_subset_iff :
    columnsOf records ⊆ record.columns ↔ ∀ other ∈ records, other.columns ⊆ record.columns := by
  constructor
  · exact fun h other hother column hcolumn => h (mem_columnsOf.2 ⟨other, hother, hcolumn⟩)
  · intro h column hcolumn
    obtain ⟨other, hother, hmem⟩ := mem_columnsOf.1 hcolumn
    exact h other hother hmem

theorem uniform_or_blamed (records : List Record) : Uniform records ∨ ∃ fault, Blames records fault := by
  by_cases hnil : records = []
  · subst hnil
    exact .inr ⟨_, .noRows⟩
  cases hempty : records.find? (fun record => record.columns = []) with
  | some record =>
    obtain ⟨empty, before, after, split, earlier⟩ := List.find?_eq_some_iff_append.1 hempty
    exact .inr ⟨_, .emptyRow split (by simpa using empty) (by simpa using earlier)⟩
  | none =>
    have filled : ∀ record ∈ records, record.columns ≠ [] := by simpa using hempty
    cases hlacks : records.find? (fun record => ∃ column ∈ columnsOf records, column ∉ record.columns) with
    | none =>
      have complete : ∀ record ∈ records, columnsOf records ⊆ record.columns := by
        simpa [List.subset_def] using hlacks
      refine .inl ⟨hnil, filled, ?_⟩
      exact fun first hfirst second hsecond => columnsOf_subset_iff.1 (complete second hsecond) first hfirst
    | some record =>
      obtain ⟨lacks, before, after, split, earlier⟩ := List.find?_eq_some_iff_append.1 hlacks
      have complete : ∀ r ∈ before, columnsOf records ⊆ r.columns := by
        simpa [List.subset_def] using earlier
      cases hcolumn : (columnsOf records).find? (fun c => c ∉ record.columns) with
      | none =>
        have has_all : ∀ column ∈ columnsOf records, column ∈ record.columns := by simpa using hcolumn
        obtain ⟨column, hmem, hlack⟩ := of_decide_eq_true lacks
        exact absurd (has_all column hmem) hlack
      | some column =>
        rw [columnsOf_eq] at hcolumn
        exact .inr ⟨_, .missingColumn split filled hcolumn fun r hr => columnsOf_subset_iff.1 (complete r hr)⟩

theorem isEmpty_iff : record.isEmpty = true ↔ record.columns = [] := by
  rw [KeyedList.isEmpty, List.isEmpty_iff, Record.columns, KeyedList.keys, List.map_eq_nil_iff]

theorem emptyRow?_of_filled (h : ∀ record ∈ records, record.columns ≠ []) : emptyRow? records = none := by
  rw [emptyRow?, List.findIdx?_eq_none_iff]
  intro record hrecord
  rw [← Bool.not_eq_true, isEmpty_iff]
  exact h record hrecord

theorem emptyRow?_of_empty {before : List Record} (after : List Record) (empty : record.columns = [])
    (earlier : ∀ r ∈ before, r.columns ≠ []) : emptyRow? (before ++ record :: after) = some before.length := by
  have none_before := emptyRow?_of_filled earlier
  rw [emptyRow?] at none_before ⊢
  rw [List.findIdx?_append, none_before, List.findIdx?_cons, isEmpty_iff.2 empty]
  simp

theorem valuesClause_of_uniform (h : Uniform records) :
    valuesClause records = .ok (bracketed (columnsOf records) ++ " VALUES " ++
      ",".intercalate (records.map (tupleUnder (columnsOf records)))) := by
  have complete : ∀ record ∈ records, columnsOf records ⊆ record.columns := fun record hrecord =>
    columnsOf_subset_iff.2 fun other hother => h.alike other hother record hrecord
  rw [valuesClause, if_neg (by simpa using h.ne_nil), emptyRow?_of_filled h.filled, tuples_of_subset 0 complete]
  rfl

theorem valuesClause_of_blames {fault : InsertFault} (h : Blames records fault) :
    valuesClause records = .error fault := by
  cases h with
  | noRows => rfl
  | @emptyRow _ before after record split empty earlier =>
    rw [valuesClause, if_neg (by simp [split]), split, emptyRow?_of_empty after empty earlier]
  | @missingColumn _ before after record column split filled lacks earlier =>
    have complete : ∀ r ∈ before, columnsOf records ⊆ r.columns := fun r hr =>
      columnsOf_subset_iff.2 (earlier r hr)
    rw [← columnsOf_eq] at lacks
    have failed := tuples_of_lacks after 0 complete lacks
    rw [← split, Nat.zero_add] at failed
    rw [valuesClause, if_neg (by simp [split]), emptyRow?_of_filled filled, failed]
    rfl

theorem valuesClause_eq_ok_iff {text : String} :
    valuesClause records = .ok text ↔ Uniform records ∧ text = bracketed (columnsOf records) ++ " VALUES " ++
      ",".intercalate (records.map (tupleUnder (columnsOf records))) := by
  constructor
  · intro h
    obtain uniform | ⟨fault, blamed⟩ := uniform_or_blamed records
    · rw [valuesClause_of_uniform uniform] at h
      exact ⟨uniform, (Except.ok.inj h).symm⟩
    · rw [valuesClause_of_blames blamed] at h
      cases h
  · rintro ⟨uniform, rfl⟩
    exact valuesClause_of_uniform uniform

theorem valuesClause_eq_error_iff {fault : InsertFault} : valuesClause records = .error fault ↔ Blames records fault := by
  constructor
  · intro h
    obtain uniform | ⟨first, blamed⟩ := uniform_or_blamed records
    · rw [valuesClause_of_uniform uniform] at h
      cases h
    · rw [valuesClause_of_blames blamed] at h
      cases h
      exact blamed
  · exact valuesClause_of_blames

/-! ## Rows laid out -/

/-- The values of a record, each under its column; no column of the record is left out. -/
structure Laid (columns : List String) (record : Record) (row : List Value) : Prop where
  mem_columns : ∀ column, column ∈ columns ↔ column ∈ record.columns
  cells : List.Forall₂ (fun column value => record.get? column = some value) columns row

theorem Uniform.mem_columnsOf_iff (h : Uniform records) (hrecord : record ∈ records) (column : String) :
    column ∈ columnsOf records ↔ column ∈ record.columns := by
  rw [mem_columnsOf]
  constructor
  · rintro ⟨other, hother, hmem⟩
    exact h.alike other hother record hrecord hmem
  · exact fun hmem => ⟨record, hrecord, hmem⟩

theorem Uniform.laid (h : Uniform records) (hrecord : record ∈ records) :
    Laid (columnsOf records) record (valuesUnder (columnsOf records) record) :=
  ⟨h.mem_columnsOf_iff hrecord, forall₂_valuesUnder fun column => (h.mem_columnsOf_iff hrecord column).1⟩

/-- A clause that is written lays out all records under the columns of all, of which there is at least one. -/
theorem laid_of_valuesClause {text : String} (h : valuesClause records = .ok text) :
    ∃ table, records ≠ [] ∧ columnsOf records ≠ [] ∧ List.Forall₂ (Laid (columnsOf records)) records table ∧
      text = bracketed (columnsOf records) ++ " VALUES " ++
        ",".intercalate (table.map fun values => bracketed (values.map Value.literal)) := by
  obtain ⟨uniform, rfl⟩ := valuesClause_eq_ok_iff.1 h
  obtain ⟨record, hrecord⟩ := List.exists_mem_of_ne_nil _ uniform.ne_nil
  obtain ⟨column, hcolumn⟩ := List.exists_mem_of_ne_nil _ (uniform.filled record hrecord)
  refine ⟨records.map (valuesUnder (columnsOf records)), uniform.ne_nil,
    List.ne_nil_of_mem ((uniform.mem_columnsOf_iff hrecord column).2 hcolumn), ?_, ?_⟩
  · rw [List.forall₂_map_right_iff, List.forall₂_same]
    exact fun record hrecord => uniform.laid hrecord
  · rw [List.map_map]
    rfl

end SqlBuilder.Sql

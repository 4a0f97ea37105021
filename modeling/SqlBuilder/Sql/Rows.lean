import SqlBuilder.Error

/-!
# Rows of an insert

Several records are inserted under one list of columns: the columns of all records, in the order in
which they are first met. Every record must have every column.

* `columnsOf` : the columns of all records.
* `literals`, `tuples` : the literals of one record and of all, in the order of given columns.
* `valuesClause` : `(columns) VALUES (literals),(literals)`, or the first fault. An empty record is
  reported before a missing column.
-/

namespace SqlBuilder.Sql

set_option autoImplicit false

/-- Adds the columns that are not there yet. -/
def addColumns (columns : List String) (record : Record) : List String :=
  record.columns.foldl (fun done column => if column ∈ done then done else done ++ [column]) columns

/-- The columns of all records, in the order in which they are first met. -/
def columnsOf (records : List Record) : List String := records.foldl addColumns []

/-- The number of the first record without columns. -/
def emptyRow? (records : List Record) : Option Nat := records.findIdx? fun record => record.isEmpty

/-- The literals of a record for given columns, or the first column that is missing. -/
def literals (row : Nat) (record : Record) : List String → Except InsertFault (List String)
  | [] => .ok []
  | column :: columns =>
    match record.get? column with
    | none => .error (.missingColumn row column)
    | some value => (literals row record columns).map (value.literal :: ·)

/-- Texts between round brackets, separated by commas. -/
def bracketed (items : List String) : String := "(" ++ ",".intercalate items ++ ")"

/-- The tuples of records for given columns, the first record having the number `row`. -/
def tuples (columns : List String) : Nat → List Record → Except InsertFault (List String)
  | _, [] => .ok []
  | row, record :: records => do
    let items ← literals row record columns
    let rest ← tuples columns (row + 1) records
    return bracketed items :: rest

def valuesClause (records : List Record) : Except InsertFault String :=
  if records.isEmpty then .error .noRows
  else
    match emptyRow? records with
    | some row => .error (.emptyRow row)
    | none =>
      (tuples (columnsOf records) 0 records).map fun rows =>
        bracketed (columnsOf records) ++ " VALUES " ++ ",".intercalate rows

end SqlBuilder.Sql

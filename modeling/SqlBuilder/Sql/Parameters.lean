import SqlBuilder.Clause.Verb
import SqlBuilder.Sql.Rows

/-!
# Parameters of a statement

How the verb of a statement reads its parameters: an insert takes rows, an update assignments, a select
columns. Only rows and the assignments of one record are written as literals; everything else stands as
it is.
-/

namespace SqlBuilder.Sql

set_option autoImplicit false

/-- The rows of an insert. A list of values is one row without columns, a text is taken as it is. -/
def insertParameters : Payload → Except InsertFault String
  | .map record => valuesClause [record]
  | .rows records => valuesClause records
  | .list items => .ok ("VALUES " ++ bracketed (items.map Value.literal))
  | .text sql => .ok sql

def updateParameters : Payload → String
  | .map record => "SET " ++ Payload.assignments Value.literal record
  | payload => "SET " ++ payload.verbatim

/-- The parameters of a statement, as its verb reads them. -/
def parameters (verb : Option Verb) (payload : Payload) : Except InsertFault String :=
  match verb with
  | some .insert => insertParameters payload
  | some .select => .ok (payload.verbatim ++ " FROM")
  | some .update => .ok (updateParameters payload)
  | some .delete | some .drop | none => .ok payload.verbatim

end SqlBuilder.Sql

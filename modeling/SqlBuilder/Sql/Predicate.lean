import SqlBuilder.Payload
import SqlBuilder.Text.Blank

/-!
# Predicates

The condition of a statement. Values stand in it as they are, without quotes and escapes. An entry of
a record under an ordinal key is a condition of its own; any other entry compares its column.

* `predicate` : one entry.
* `condition` : the text of a payload, its pieces separated by spaces.
* `conditionClause?` : the clause, unless its condition is blank.
-/

namespace SqlBuilder.Sql

set_option autoImplicit false

def predicate (column : String) (value : Value) : String :=
  if Record.isOrdinalKey column then value.rawText else column ++ " = " ++ value.rawText

def predicates (record : Record) : String :=
  " ".intercalate (record.entries.map fun (column, value) => predicate column value)

def condition : Payload → String
  | .text sql => sql
  | .list items => " ".intercalate (items.map Value.rawText)
  | .map record => predicates record
  | .rows records => " ".intercalate (records.map predicates)

/-- The clause of a payload; a blank condition has none. -/
def conditionClause? (payload : Payload) : Option String :=
  let body := Text.trim (condition payload)
  if body = "" then none else some ("WHERE " ++ body)

end SqlBuilder.Sql

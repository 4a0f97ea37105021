/-!
# Answers

What running a statement gives: the rows of a select, or the number of rows that a write changed.
-/

namespace SqlBuilder

set_option autoImplicit false

/-- A row of a result: the text of each column, if it has a value. -/
abbrev Row := List (String × Option String)

inductive Answer where
  | rows (selected : List Row)
  | count (changed : Nat)
deriving DecidableEq

namespace Answer

def rows? : Answer → Option (List Row)
  | rows selected => some selected
  | count _ => none

def count? : Answer → Option Nat
  | rows _ => none
  | count changed => some changed

end Answer

end SqlBuilder

import SqlBuilder.Clause.Basic

/-!
# Declared clauses

The clauses that were declared, one per slot, in the order in which the slots were first declared.

* `Clauses.store` : the effect of a declaration.
* `Clauses.verb?`, `Clauses.table?`, … : what was declared last in a slot.
* `Clauses.customs` : the custom fragments.
-/

namespace SqlBuilder

set_option autoImplicit false

abbrev Clauses := KeyedList Clause.slot

namespace Clauses

def empty : Clauses := {}

/-- Stores a clause, in the place of the clause in its slot if there is one. -/
def store (clauses : Clauses) (clause : Clause) : Clauses := clauses.put clause

def ofKind? (clauses : Clauses) (kind : Clause.Kind) : Option Clause :=
  clauses.toList.find? fun clause => clause.kind = kind

def verb? (clauses : Clauses) : Option Verb :=
  clauses.toList.findSome? fun
    | .verb v => some v
    | _ => none

def table? (clauses : Clauses) : Option String :=
  clauses.toList.findSome? fun
    | .table name => some name
    | _ => none

def params? (clauses : Clauses) : Option Payload :=
  clauses.toList.findSome? fun
    | .params payload => some payload
    | _ => none

def filter? (clauses : Clauses) : Option Payload :=
  clauses.toList.findSome? fun
    | .filter payload => some payload
    | _ => none

def limit? (clauses : Clauses) : Option String :=
  clauses.toList.findSome? fun
    | .limit fragment => some fragment
    | _ => none

def order? (clauses : Clauses) : Option String :=
  clauses.toList.findSome? fun
    | .order fragment => some fragment
    | _ => none

def customs (clauses : Clauses) : List Custom :=
  clauses.toList.filterMap fun
    | .custom fragment => some fragment
    | _ => none

end Clauses

end SqlBuilder

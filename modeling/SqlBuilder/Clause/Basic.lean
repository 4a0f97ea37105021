import SqlBuilder.Clause.Verb
import SqlBuilder.Payload

/-!
# Clauses

* `Clause.Kind` : the kinds of clause.
* `Clause` : one declared clause. A limit and an ordering hold the text that will be written.
* `Clause.Slot`, `Clause.slot` : what a clause occupies. Of two clauses in one slot the later replaces
  the earlier. A custom fragment has the slot of its label, any other clause the slot of its kind.
-/

namespace SqlBuilder

set_option autoImplicit false

inductive Clause.Kind where
  | verb
  | table
  | params
  | filter
  | limit
  | order
  | custom
deriving DecidableEq

def Clause.Kind.word : Clause.Kind → String
  | verb => "type"
  | table => "table"
  | params => "params"
  | filter => "where"
  | limit => "limit"
  | order => "order"
  | custom => "custom"

/-- A fragment of SQL that the caller supplies, under a label. A padded one is set off by spaces. -/
structure Custom where
  label : String
  text : String
  padded : Bool
deriving DecidableEq

inductive Clause where
  | verb (verb : Verb)
  | table (name : String)
  | params (payload : Payload)
  | filter (payload : Payload)
  | limit (fragment : String)
  | order (fragment : String)
  | custom (fragment : Custom)
deriving BEq

namespace Clause

def kind : Clause → Kind
  | verb _ => .verb
  | table _ => .table
  | params _ => .params
  | filter _ => .filter
  | limit _ => .limit
  | order _ => .order
  | custom _ => .custom

/-- What a clause occupies. -/
inductive Slot where
  | kind (kind : Kind)
  | label (label : String)
deriving DecidableEq

/-- The slot of a clause: the label of a custom fragment, otherwise the kind. -/
def slot : Clause → Slot
  | custom fragment => .label fragment.label
  | clause => .kind clause.kind

def limitTo (count : String) : Clause := limit ("LIMIT " ++ count)

def orderBy (expression : String) : Clause := order ("ORDER BY " ++ expression)

end Clause

end SqlBuilder

import SqlBuilder.Clause.Name
import SqlBuilder.Sql.Fragments

/-!
# Statements

A statement collects declarations and is compiled on demand.

* `Statement.declare` and the declarations by kind (`select`, `table`, `params`, …).
* `Statement.declareByName` : a declaration by a word. The word is checked before the payload, and a
  failed declaration leaves the statement as it was.
* `Statement.compile` : the text of the statement.
-/

namespace SqlBuilder

set_option autoImplicit false

/-- Declared clauses and the policy under which they are compiled. -/
structure Statement where
  clauses : Clauses := {}
  policy : CompilePolicy := {}

namespace Statement

/-- Declares a clause; it replaces the clause in its slot. -/
def declare (s : Statement) (clause : Clause) : Statement :=
  { s with clauses := s.clauses.store clause }

/-! ## Declarations by kind -/

def verb (s : Statement) (v : Verb) : Statement := s.declare (.verb v)

def select (s : Statement) : Statement := s.verb .select

def insert (s : Statement) : Statement := s.verb .insert

def update (s : Statement) : Statement := s.verb .update

def delete (s : Statement) : Statement := s.verb .delete

def drop (s : Statement) : Statement := s.verb .drop

def table (s : Statement) (name : String) : Statement := s.declare (.table name)

/-- The columns of a select, the rows of an insert, the assignments of an update. -/
def params (s : Statement) (payload : Payload) : Statement := s.declare (.params payload)

def filter (s : Statement) (payload : Payload) : Statement := s.declare (.filter payload)

def limit (s : Statement) (count : String) : Statement := s.declare (.limitTo count)

def order (s : Statement) (expression : String) : Statement := s.declare (.orderBy expression)

/-- A fragment under a label of its own. -/
def labelled (s : Statement) (label text : String) (padded : Bool) : Statement :=
  s.declare (.custom ⟨label, text, padded⟩)

/-- The label of fragments without a label of their own. -/
def commonLabel : String := "custom"

/-- A padded fragment under the common label. -/
def custom (s : Statement) (text : String) : Statement := s.labelled commonLabel text true

/-! ## Declarations by name -/

/-- The single text of the payload of a clause. -/
def requireSingle (kind : Clause.Kind) (payload : Payload) : Except StatementError String :=
  match payload.singleText? with
  | some text => .ok text
  | none => .error (.invalidPayload kind.word (.notSingle payload.shape))

/-- The clause that a word declares with a payload. A verb has no use for the payload. -/
def namedClause (name : String) (payload : Payload) : Except StatementError Clause :=
  match Clause.Name.ofWord? name with
  | some (.verb v) => .ok (.verb v)
  | some (.kind .params) => .ok (.params payload)
  | some (.kind .filter) => .ok (.filter payload)
  | some (.kind .table) => (requireSingle .table payload).map Clause.table
  | some (.kind .limit) => (requireSingle .limit payload).map Clause.limitTo
  | some (.kind .order) => (requireSingle .order payload).map Clause.orderBy
  | some (.kind .verb) | some (.kind .custom) | none => .error (.unsupportedClause name)

/-- Declares a clause by a word, in upper or lower case: what comes of it, and the statement after it. -/
def declareByName (s : Statement) (name : String) (payload : Payload) : Except StatementError Unit × Statement :=
  match namedClause name payload with
  | .ok clause => (.ok (), s.declare clause)
  | .error e => (.error e, s)

/-! ## The whole statement -/

/-- Drops all clauses and keeps the policy. -/
def clear (s : Statement) : Statement := { s with clauses := .empty }

def verb? (s : Statement) : Option Verb := s.clauses.verb?

def compile (s : Statement) : Except StatementError String := SqlBuilder.compile s.policy s.clauses

end Statement

end SqlBuilder

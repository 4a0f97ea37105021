import SqlBuilder.Clause.Collection
import SqlBuilder.Sql.Assembly
import SqlBuilder.Sql.Parameters
import SqlBuilder.Sql.Predicate

/-!
# Fragments of a statement

The fragments of a statement have a fixed order, whatever the order of the declarations: the keyword;
the parameters and then the table for a select, the table and then the parameters otherwise; the
condition; the custom fragments; the ordering; the limit.

* `fragments` : the fragments of declared clauses in that order.
* `CompilePolicy`, `compile` : the text of declared clauses.
-/

namespace SqlBuilder

set_option autoImplicit false

namespace Sql

/-- A fragment that is set off from the text before it, if there is a text. -/
def spaced (text : Option String) : List Fragment := text.toList.map fun t => ⟨t, .spaced⟩

def customFragment (c : Custom) : Fragment := ⟨c.text, if c.padded then .padded else .tight⟩

/-- The table and the parameters, in the order that the verb asks for. -/
def target (verb : Option Verb) (table parameters : Option String) : List Fragment :=
  if verb = some .select then spaced parameters ++ spaced table
  else spaced table ++ spaced parameters

/-- The text of the parameters of declared clauses, if there are any. -/
def declaredParameters (clauses : Clauses) : Except InsertFault (Option String) :=
  match clauses.params? with
  | none => .ok none
  | some payload => (parameters clauses.verb? payload).map some

/-- The fragments of declared clauses, given the text of their parameters. -/
def fragmentsWith (clauses : Clauses) (parameters : Option String) : List Fragment :=
  spaced (clauses.verb?.map Verb.keyword)
    ++ target clauses.verb? clauses.table? parameters
    ++ spaced (clauses.filter?.bind conditionClause?)
    ++ clauses.customs.map customFragment
    ++ spaced clauses.order?
    ++ spaced clauses.limit?

def fragments (clauses : Clauses) : Except InsertFault (List Fragment) :=
  (declaredParameters clauses).map (fragmentsWith clauses)

end Sql

/-- Whether a statement without a verb is refused. -/
structure CompilePolicy where
  requiresVerb : Bool := false
deriving DecidableEq

/-- The policy that refuses a statement without a verb. -/
def CompilePolicy.strict : CompilePolicy := ⟨true⟩

/-- The text of declared clauses. A missing verb is reported before a fault of the parameters. -/
def compile (policy : CompilePolicy) (clauses : Clauses) : Except StatementError String :=
  if policy.requiresVerb && clauses.verb?.isNone then .error .missingVerb
  else
    match Sql.fragments clauses with
    | .error fault => .error (.malformedInsert fault)
    | .ok fragments => .ok (Sql.assemble fragments)

end SqlBuilder

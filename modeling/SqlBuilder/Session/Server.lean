import SqlBuilder.Error
import SqlBuilder.Journal

/-!
# The server of a session

A database server as a session sees it: it accepts or refuses each request, and knows whether a
transaction is open. After a refused request inside a transaction it refuses all work until the
transaction is closed. A text that is executed can open or close a transaction by itself.

* `Status` : the state of a session's transaction.
* `Script` : which request the server refuses on its own account, and what it answers.
* `Script.accepts`, `Script.after` : the server's answer to a request, and the state it leaves.
-/

namespace SqlBuilder.Session

set_option autoImplicit false

/-- The state of a session's transaction. -/
inductive Status where
  /-- No transaction is open. -/
  | idle
  /-- A transaction is open. -/
  | active
  /-- A request of the open transaction was refused. -/
  | broken
deriving DecidableEq

inductive Step where
  | begin
  | prepare
  | execute
  | commit
deriving DecidableEq

/-- The step that a request takes. Undoing takes none. -/
def stepOf? : Request → Option Step
  | .begin => some .begin
  | .prepare _ => some .prepare
  | .execute => some .execute
  | .commit => some .commit
  | .rollback => none

/-- What the server does while one statement is run. -/
structure Script where
  /-- The step that the server refuses. -/
  refuses : Option Step := none
  /-- The number of values that the prepared text asks for. -/
  parameters : Nat := 0
  /-- The state in which the text leaves the transaction when it is executed. -/
  leaves : Status → Status := id
  /-- Whether a broken transaction still takes the text. -/
  recovers : Bool := false
  /-- What the server says when a write was executed, unless it sends something else, as for a copy. -/
  completion : Option String := some "0"
  /-- The names of the columns of a select. -/
  columns : List String := []
  /-- The cells of a select, row by row. -/
  cells : List (List (Option String)) := []

/-- Whether a broken transaction still takes the request. -/
def Script.takenWhenBroken (script : Script) : Request → Bool
  | .commit | .rollback => true
  | .prepare _ | .execute => script.recovers
  | .begin => false

/-- Whether the server accepts a request. -/
def Script.accepts (script : Script) (status : Status) (request : Request) : Bool :=
  (script.refuses.isNone || script.refuses != stepOf? request)
    && (status != .broken || script.takenWhenBroken request)

/-- The state after a request was accepted or refused. -/
def Script.after (script : Script) (status : Status) (request : Request) (accepted : Bool) : Status :=
  match request, accepted with
  | .commit, _ | .rollback, _ => .idle
  | .begin, true => .active
  | .prepare _, true => status
  | .execute, true => script.leaves status
  | _, false => if status = .idle then .idle else .broken

end SqlBuilder.Session

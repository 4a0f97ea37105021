/-!
# Journals

What becomes visible while a statement is run, in the order in which it happens: events that are
logged, calls of a backend, and requests to a database server.

* `Level`, `Event` : logged events.
* `Route` : whether a call reads rows or writes in a transaction.
* `Request` : what is sent to a server.
* `Entry` : an entry of a journal.
-/

namespace SqlBuilder

set_option autoImplicit false

inductive Level where
  | error
  | warn
  | info
  | debug
  | trace
deriving DecidableEq

structure Event where
  target : String
  level : Level
  fields : List (String × String)
deriving DecidableEq

/-- The two ways of calling a backend. -/
inductive Route where
  | read
  | write
deriving DecidableEq

/-- What is sent to a server. -/
inductive Request where
  | begin
  | prepare (sql : String)
  | execute
  | commit
  | rollback
deriving DecidableEq

inductive Entry where
  | event (event : Event)
  /-- A backend was called. -/
  | called (route : Route) (sql : String)
  /-- The backend's call came to its end. -/
  | completed
  | requested (request : Request)
deriving DecidableEq

def Entry.request? : Entry → Option Request
  | requested r => some r
  | _ => none

end SqlBuilder

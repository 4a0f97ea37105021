import SqlBuilder.Clause.Verb
import SqlBuilder.Error
import SqlBuilder.Execution.Answer
import SqlBuilder.Journal

/-!
# Backends

A backend answers two kinds of call: to read rows, and to write inside a transaction. A call takes some
time, and what it does to the state of the backend is done when it comes to its end.

* `Reply` : what comes of a call.
* `Backend` : the two kinds of call; `Backend.call` chooses between them by the route.
* `Route.ofVerb` : the route of a statement.
* `overrun?` : whether a call is cut off by a time limit.
-/

namespace SqlBuilder

set_option autoImplicit false

/-- What comes of a call of a backend with states `σ`. -/
structure Reply (σ α : Type) where
  /-- The time from the call to its end; no time means that the call ends at once. -/
  delay : Duration := ⟨0⟩
  /-- What the journal shows of the call. -/
  entries : List Entry := []
  result : Except StatementError α
  state : σ

/-- A backend with states `σ`. -/
structure Backend (σ : Type) where
  /-- Reads the rows of a statement. -/
  query : String → σ → Reply σ (List Row)
  /-- Runs a statement in a transaction of its own and counts the rows it changes. -/
  transact : String → σ → Reply σ Nat

/-- The route of a statement: a select reads, any other statement writes, one without a verb too. -/
def Route.ofVerb (verb : Option Verb) : Route :=
  match verb with
  | some v => if v.isRead then .read else .write
  | none => .write

/-- Calls a backend by a route. -/
def Backend.call {σ : Type} (backend : Backend σ) (route : Route) (sql : String) (state : σ) :
    Reply σ Answer :=
  match route with
  | .read =>
    let reply := backend.query sql state
    { reply with result := reply.result.map Answer.rows }
  | .write =>
    let reply := backend.transact sql state
    { reply with result := reply.result.map Answer.count }

/-- The time limit that cuts a call off. A call that ends at once is never cut off. -/
def overrun? (limit : Option Duration) (delay : Duration) : Option Duration :=
  limit.filter fun l => 0 < delay.nanos && l.nanos < delay.nanos

end SqlBuilder

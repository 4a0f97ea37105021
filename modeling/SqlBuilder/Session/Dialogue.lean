import SqlBuilder.Execution.Run
import SqlBuilder.Session.Client
import SqlBuilder.Session.Server

/-!
# The dialogue with a server

A session runs statements on one server, through a client library. A read prepares the statement and executes it. A
write does the same inside a transaction of its own; the dialogue stops at the first request that fails, and a
transaction that cannot be finished is undone. A request fails when the server refuses it, or when the client does not
send it, and then the server does not see it.

* `Dialogue` : the state of the transaction and what the journal shows so far.
* `query`, `transact` : the two kinds of call; `backend` puts them together.
* `runAll` : statements one after the other on one session.
* `Origin`, `received` : where the connection comes from, and what the server has received in the end.
-/

namespace SqlBuilder.Session

set_option autoImplicit false

structure Dialogue where
  status : Status
  entries : List Entry := []

namespace Dialogue

/-- Sends a request and waits for the answer of the server. -/
def send (script : Script) (d : Dialogue) (request : Request) : Except ServerFault Unit × Dialogue :=
  let accepted := script.accepts d.status request
  (if accepted then .ok () else .error .refused,
    ⟨script.after d.status request accepted, d.entries ++ [.requested request]⟩)

/-- Has a text prepared. -/
def prepare (client : Client) (script : Script) (sql : String) (d : Dialogue) : Except ServerFault Unit × Dialogue :=
  match client.unprepared? sql with
  | some fault => (.error fault, d)
  | none => d.send script (.prepare sql)

/-- Has the prepared text executed, without any values. -/
def execute (client : Client) (script : Script) (d : Dialogue) : Except ServerFault Unit × Dialogue :=
  match client.unexecuted? script.parameters with
  | some fault => (.error fault, d)
  | none => d.send script .execute

/-- Undoes the transaction. Nothing waits for the answer of the server. -/
def undo (script : Script) (d : Dialogue) : Dialogue := (d.send script .rollback).2

def note (d : Dialogue) (event : Event) : Dialogue := { d with entries := d.entries ++ [.event event] }

end Dialogue

def commitEvent (fault : ServerFault) : Event where
  target := runTarget
  level := .warn
  fields := [("message", "commit failed"), ("error", fault.message)]

/-- Goes on with a dialogue unless its last request failed. -/
def andThen {α : Type} (outcome : Except ServerFault Unit × Dialogue)
    (next : Dialogue → Except ServerFault α × Dialogue) : Except ServerFault α × Dialogue :=
  match outcome with
  | (.error fault, d) => (.error fault, d)
  | (.ok (), d) => next d

/-- Has a text prepared and executed. The answer is what the client reads after that. -/
def prepareAndExecute {α : Type} (client : Client) (script : Script) (sql : String) (answer : Except ServerFault α)
    (d : Dialogue) : Except ServerFault α × Dialogue :=
  andThen (d.prepare client script sql) fun d => andThen (d.execute client script) fun d => (answer, d)

/-- Reads the rows of a statement. -/
def query (client : Client) (script : Script) (sql : String) (d : Dialogue) :
    Except StatementError (List Row) × Dialogue :=
  match prepareAndExecute client script sql (client.selected script.columns script.cells) d with
  | (.error fault, d) => (.error (.execution fault), d)
  | (.ok rows, d) => (.ok rows, d)

/-- Begins a transaction and executes a text in it. The answer is the number of rows that it changes. -/
def change (client : Client) (script : Script) (sql : String) (d : Dialogue) : Except ServerFault Nat × Dialogue :=
  andThen (d.send script .begin) (prepareAndExecute client script sql (client.changed script.completion))

/-- Runs a statement in a transaction of its own. -/
def transact (client : Client) (script : Script) (sql : String) (d : Dialogue) :
    Except StatementError Nat × Dialogue :=
  match change client script sql d with
  | (.error fault, d) => (.error (.execution fault), d.undo script)
  | (.ok changed, d) =>
    match d.send script .commit with
    | (.error fault, d) => (.error (.commit fault), d.note (commitEvent fault))
    | (.ok (), d) => (.ok changed, d)

/-- The reply to a call. The server answers at once. -/
def reply {α : Type} (answer : Except StatementError α × Dialogue) : Reply Status α where
  entries := answer.2.entries
  result := answer.1
  state := answer.2.status

/-- The backend of a session while the server follows a script. -/
def backend (client : Client) (script : Script) : Backend Status where
  query sql status := reply (query client script sql ⟨status, []⟩)
  transact sql status := reply (transact client script sql ⟨status, []⟩)

/-! ## Several statements -/

structure Turn where
  statement : Statement
  command : Command := .compiled {}
  script : Script := {}

def Turn.run (client : Client) (turn : Turn) (status : Status) : Report Status :=
  turn.statement.run turn.command (backend client turn.script) status

def runAll (client : Client) (status : Status) : List Turn → List (Report Status)
  | [] => []
  | turn :: turns =>
    let report := turn.run client status
    report :: runAll client report.state turns

/-! ## The end of a session -/

/-- Where the connection of a session comes from. -/
inductive Origin where
  /-- Opened for the session. In the end it is closed in order, and all that was sent still arrives. -/
  | direct
  /-- Taken from a pool. In the end it is cut off, and what has not left yet is lost. -/
  | pooled
deriving DecidableEq

/-- The requests that the server has received in the end. Nothing waits for a rollback, so a connection
that is cut off loses one that no other request follows. -/
def received (origin : Origin) (reports : List (Report Status)) : List Request :=
  let sent := (reports.flatMap Report.journal).filterMap Entry.request?
  match origin with
  | .direct => sent
  | .pooled => if sent.getLast? = some .rollback then sent.dropLast else sent

end SqlBuilder.Session

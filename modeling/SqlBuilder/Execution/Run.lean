import SqlBuilder.Execution.Backend
import SqlBuilder.Execution.Settings
import SqlBuilder.Statement
import SqlBuilder.Text.Cut

/-!
# Running statements

A statement is compiled and its text submitted to a backend. Compiling is logged with the whole text,
running with as much of the text as the settings allow; both come before the call.

* `Report` : the result of a run, its journal, and the state it leaves.
* `submit` : a text submitted to a backend.
* `Command`, `Statement.run` : a statement compiled and run, or a text of the caller run in its place.
-/

namespace SqlBuilder

set_option autoImplicit false

variable {σ : Type}

/-- What is known after a run. -/
structure Report (σ : Type) where
  result : Except StatementError Answer
  journal : List Entry
  state : σ

/-! ## Events -/

def verbField (verb : Option Verb) : String := (verb.map Verb.word).getD "-"

/-- The event of a statement that was compiled. -/
def compiledEvent (clauses : Clauses) (sql : String) : Event where
  target := "pgstmt.compile"
  level := .trace
  fields :=
    [("statement_type", verbField clauses.verb?), ("clauses", toString clauses.size), ("sql", sql)]

def runTarget : String := "pgstmt.sql"

/-- The event of a text that is about to be run. -/
def runEvent (settings : RunSettings) (verb : Option Verb) (sql : String) : Event where
  target := runTarget
  level := settings.level
  fields := [("statement_type", verbField verb), ("sql", Text.abridge settings.loggedBytes sql)]

/-! ## Running -/

/-- What the journal shows before the backend answers. -/
def preamble (settings : RunSettings) (verb : Option Verb) (sql : String) : List Entry :=
  (if settings.logs then [Entry.event (runEvent settings verb sql)] else [])
    ++ [.called (.ofVerb verb) sql]

/-- Submits a text to a backend, within the time limit. A call that is cut off leaves no trace. -/
def submit (settings : RunSettings) (verb : Option Verb) (sql : String) (backend : Backend σ) (state : σ) :
    Report σ :=
  let reply := backend.call (.ofVerb verb) sql state
  let opening := preamble settings verb sql
  match overrun? settings.timeLimit reply.delay with
  | some limit => ⟨.error (.timeout limit), opening, state⟩
  | none => ⟨reply.result, opening ++ reply.entries ++ [.completed], reply.state⟩

inductive Command where
  /-- The compiled statement. -/
  | compiled (settings : RunSettings)
  /-- A text of the caller, in place of the compiled one. -/
  | given (sql : String)

namespace Statement

/-- Compiles the statement and runs it. -/
def runCompiled (s : Statement) (settings : RunSettings) (backend : Backend σ) (state : σ) : Report σ :=
  match s.compile with
  | .error e => ⟨.error e, [], state⟩
  | .ok sql =>
    let report := submit settings s.verb? sql backend state
    { report with journal := .event (compiledEvent s.clauses sql) :: report.journal }

/-- Runs a text by the route of the statement, which is not compiled. -/
def runGiven (s : Statement) (sql : String) (backend : Backend σ) (state : σ) : Report σ :=
  submit {} s.verb? sql backend state

def run (s : Statement) (command : Command) (backend : Backend σ) (state : σ) : Report σ :=
  match command with
  | .compiled settings => s.runCompiled settings backend state
  | .given sql => s.runGiven sql backend state

end Statement

end SqlBuilder

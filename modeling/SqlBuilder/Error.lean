import SqlBuilder.Duration
import SqlBuilder.Payload

/-!
# Errors

Why a statement cannot be declared, compiled or run. Every cause keeps its data; the wording is in
`StatementError.message` and in the `message` of the faults.

* `InsertFault` : rows that do not go into one list of columns.
* `PayloadFault` : a payload that a clause cannot hold.
* `ServerFault`, `PoolFault` : what goes wrong with a database server or a pool of connections.
* `SettingsFault` : settings that are missing or malformed.
* `StatementError` : all of them; `StatementError.phase` says in which phase an error arises.
-/

namespace SqlBuilder

set_option autoImplicit false

/-! ## Faults -/

/-- Rows that do not go into one list of columns. Rows are counted from zero. -/
inductive InsertFault where
  | noRows
  | emptyRow (row : Nat)
  | missingColumn (row : Nat) (column : String)
  | described (text : String)
deriving DecidableEq

def InsertFault.message : InsertFault → String
  | noRows => "no rows to insert"
  | emptyRow row => "row " ++ toString row ++ " has no columns"
  | missingColumn row column => "row " ++ toString row ++ " is missing column '" ++ column ++ "'"
  | described text => text

/-- A payload that a clause cannot hold. -/
inductive PayloadFault where
  | notSingle (shape : Shape)
  | described (text : String)
deriving DecidableEq

def PayloadFault.message : PayloadFault → String
  | notSingle shape => "expected a single value, got " ++ shape.name
  | described text => text

/-- What goes wrong between a client and a server. -/
inductive ServerFault where
  /-- The server refused a request. -/
  | refused
  /-- A request cannot be put into a message. -/
  | unsendable
  /-- An answer cannot be read. -/
  | unreadable
  /-- The connection text cannot be read. -/
  | malformedUrl
  | described (text : String)
deriving DecidableEq

def ServerFault.message : ServerFault → String
  | refused => "db error"
  | unsendable => "error encoding message to server"
  | unreadable => "error parsing response from server"
  | malformedUrl => "invalid connection string"
  | described text => text

inductive PoolFault where
  | closed
  /-- A wait for a connection is limited, but nothing measures time. -/
  | untimed
  /-- The pool could not open a connection. -/
  | opening (fault : ServerFault)
  | described (text : String)
deriving DecidableEq

def PoolFault.message : PoolFault → String
  | closed => "Pool has been closed"
  | untimed => "Error occurred while building the pool: Timeouts require a runtime"
  | opening fault => "Error occurred while creating a new object: " ++ fault.message
  | described text => text

def urlVariable : String := "DATABASE_URL"

def poolSizeVariable : String := "PGSTMT_POOL_MAX_SIZE"

inductive SettingsFault where
  | missingUrl
  | poolSize
  | described (text : String)
deriving DecidableEq

def SettingsFault.message : SettingsFault → String
  | missingUrl => urlVariable ++ " is not set"
  | poolSize => poolSizeVariable ++ " must be a positive integer"
  | described text => text

/-! ## Errors of statements -/

inductive StatementError where
  /-- A clause was declared by a word that names none. -/
  | unsupportedClause (name : String)
  | invalidPayload (clause : String) (fault : PayloadFault)
  | malformedInsert (fault : InsertFault)
  /-- The policy asks for a verb and none was declared. -/
  | missingVerb
  | connection (fault : ServerFault)
  | execution (fault : ServerFault)
  | commit (fault : ServerFault)
  /-- Running took longer than the limit. -/
  | timeout (limit : Duration)
  | pool (fault : PoolFault)
  | serialization (fault : DatumFault)
  | settings (fault : SettingsFault)
deriving DecidableEq

inductive Phase where
  /-- Data and settings are made ready. -/
  | preparing
  /-- Clauses are declared and compiled. -/
  | compiling
  /-- The text is run. -/
  | running
deriving DecidableEq

namespace StatementError

def message : StatementError → String
  | unsupportedClause name => "Unsupported clause: " ++ name
  | invalidPayload clause fault => "Invalid payload for " ++ clause ++ ": " ++ fault.message
  | malformedInsert fault => "Malformed insert shape: " ++ fault.message
  | missingVerb => "Missing statement type"
  | connection fault => "Connection error: " ++ fault.message
  | execution fault => "Execution error: " ++ fault.message
  | commit fault => "Commit failed: " ++ fault.message
  | timeout limit => "Statement timeout after " ++ limit.text
  | pool fault => "Pool error: " ++ fault.message
  | serialization fault => "Serialization error: " ++ fault.message
  | settings fault => "Configuration error: " ++ fault.message

def phase : StatementError → Phase
  | unsupportedClause _ | invalidPayload _ _ | malformedInsert _ | missingVerb => .compiling
  | connection _ | execution _ | commit _ | timeout _ | pool _ => .running
  | serialization _ | settings _ => .preparing

/-- The word that names no clause. -/
def unknownName? : StatementError → Option String
  | unsupportedClause name => some name
  | _ => none

end StatementError

end SqlBuilder

import SqlBuilder.Duration
import SqlBuilder.Journal

/-!
# Settings of a run

How long a statement may take, and how its text is logged.
-/

namespace SqlBuilder

set_option autoImplicit false

structure RunSettings where
  /-- How long the backend may take; without a limit it may take any time. -/
  timeLimit : Option Duration := none
  /-- Whether the text is logged before it is run. -/
  logs : Bool := true
  /-- How many bytes of the text are logged; without a limit all of it. -/
  loggedBytes : Option Nat := some 200
  /-- The level at which the text is logged. -/
  level : Level := .debug
deriving DecidableEq

end SqlBuilder

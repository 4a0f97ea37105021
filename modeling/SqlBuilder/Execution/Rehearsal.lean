import SqlBuilder.Execution.Backend

/-!
# Rehearsals

A backend without a database: every call takes the same time and then fails with a given error, or gives
no rows and a given count.
-/

namespace SqlBuilder

set_option autoImplicit false

structure Rehearsal where
  delay : Duration := ⟨0⟩
  failure : Option StatementError := none
  changed : Nat := 0

namespace Rehearsal

/-- The result of a call that would give a value. -/
def result {α : Type} (rehearsal : Rehearsal) (value : α) : Except StatementError α :=
  match rehearsal.failure with
  | some e => .error e
  | none => .ok value

/-- The backend of a rehearsal. It has no state. -/
def backend (rehearsal : Rehearsal) : Backend Unit where
  query _ _ := { delay := rehearsal.delay, result := rehearsal.result [], state := () }
  transact _ _ := { delay := rehearsal.delay, result := rehearsal.result rehearsal.changed, state := () }

end Rehearsal

end SqlBuilder

import SqlBuilder.Decimal.Bounded
import SqlBuilder.Error
import SqlBuilder.Execution.Answer
import SqlBuilder.Text.Split

/-!
# Client libraries

A session talks to its server through a client library, which is not part of this one and stands here as a parameter.
The library can refuse to send a request, and it reads the answers of the server in its own way. To begin, to commit and
to undo are always sent. Looking up the types of a text belongs to preparing it.

* `Client` : what a session uses of a client library.
* `Client.Documented` : what the documentation says of it.
* `Client.standard` : a client library as documented.
-/

namespace SqlBuilder.Session

set_option autoImplicit false

/-- What a session uses of a client library. -/
structure Client where
  /-- Why a text is not sent to be prepared. -/
  unprepared? : String → Option ServerFault
  /-- Why a prepared text that asks for so many values is not executed without any. -/
  unexecuted? : Nat → Option ServerFault
  /-- The number of changed rows, from what the server says about an executed write. -/
  changed : Option String → Except ServerFault Nat
  /-- The rows of a select, from the names of its columns and its cells. -/
  selected : List String → List (List (Option String)) → Except ServerFault (List Row)

/-- The character that ends a text in a message. -/
def terminator : Char := '\x00'

/-- A length in bytes up to which a text always fits into a message. -/
def safeLength : Nat := 1073741824

/-- What the documentation says of a client library: which texts it sends, that it executes a prepared text only with as
many values as the text asks for, and that it reads a count from whatever the server says about a write, but only from
that. -/
structure Client.Documented (client : Client) : Prop where
  unprepared : ∀ sql : String, terminator ∈ sql.toList → client.unprepared? sql ≠ none
  prepared : ∀ sql : String, terminator ∉ sql.toList → sql.utf8ByteSize ≤ safeLength →
    client.unprepared? sql = none
  executed_iff : ∀ parameters, client.unexecuted? parameters = none ↔ parameters = 0
  counted_iff : ∀ completion, (∃ n, client.changed completion = .ok n) ↔ completion ≠ none

/-- The greatest number of changed rows. -/
def greatestChange : Nat := 18446744073709551615

namespace Client

/-- A client library as documented. The number of changed rows is the last word of what the server says, or zero when
that is no number or past the greatest one. Every row must have one cell for each column. -/
def standard : Client where
  unprepared? sql := if sql.toList.contains terminator then some .unsendable else none
  unexecuted? parameters :=
    if parameters = 0 then none
    else some (.described ("expected " ++ toString parameters ++ " parameters but got 0"))
  changed
    | some completion =>
      .ok ((Decimal.readBounded greatestChange (String.ofList (Text.lastWord completion.toList))).getD 0)
    | none => .error (.described "unexpected message from server")
  selected columns cells :=
    if cells.all fun row => row.length == columns.length then .ok (cells.map fun row => columns.zip row)
    else .error .unreadable

theorem standard_documented : standard.Documented where
  unprepared sql h := by simp [standard, h]
  prepared sql h _ := by simp [standard, h]
  executed_iff parameters := by simp [standard]
  counted_iff completion := by cases completion <;> simp [standard]

end Client

end SqlBuilder.Session

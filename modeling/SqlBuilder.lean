import SqlBuilder.Connection.Pool
import SqlBuilder.Execution.Rehearsal
import SqlBuilder.Proofs.Clause.History
import SqlBuilder.Proofs.Clause.Operations
import SqlBuilder.Proofs.Clause.Removing
import SqlBuilder.Proofs.Clause.Storing
import SqlBuilder.Proofs.Connection.Settings
import SqlBuilder.Proofs.Decimal.Bounded
import SqlBuilder.Proofs.Execution.Running
import SqlBuilder.Proofs.Json.WellFormed
import SqlBuilder.Proofs.KeyedList.History
import SqlBuilder.Proofs.Payload.Documents
import SqlBuilder.Proofs.Payload.Shapes
import SqlBuilder.Proofs.Record.History
import SqlBuilder.Proofs.Record.Operations
import SqlBuilder.Proofs.Record.Ordinals
import SqlBuilder.Proofs.Session.Calls
import SqlBuilder.Proofs.Session.Course
import SqlBuilder.Proofs.Session.Transactions
import SqlBuilder.Proofs.Sql.Alignment
import SqlBuilder.Proofs.Sql.Assembly
import SqlBuilder.Proofs.Sql.Compilation
import SqlBuilder.Proofs.Sql.Conditions
import SqlBuilder.Proofs.Sql.Emission
import SqlBuilder.Proofs.Sql.Interchange
import SqlBuilder.Proofs.Sql.Joining
import SqlBuilder.Proofs.Sql.Predicates
import SqlBuilder.Proofs.Sql.ReadBack
import SqlBuilder.Proofs.Sql.Refusal
import SqlBuilder.Proofs.Sql.Rows
import SqlBuilder.Proofs.Sql.Separation
import SqlBuilder.Proofs.Sql.SingleRow
import SqlBuilder.Proofs.Sql.Tuples
import SqlBuilder.Proofs.Statement.DeclarationOrder
import SqlBuilder.Proofs.Statement.Naming
import SqlBuilder.Proofs.Statement.SingleDocuments
import SqlBuilder.Proofs.Text.Alike
import SqlBuilder.Proofs.Text.Cut
import SqlBuilder.Proofs.Text.Literals
import SqlBuilder.Proofs.Value.Decoding
import SqlBuilder.Proofs.Value.Documents
import SqlBuilder.Proofs.Value.Literal
import SqlBuilder.Session.Dialogue

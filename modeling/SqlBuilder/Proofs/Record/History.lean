import SqlBuilder.Proofs.Record.Operations
import SqlBuilder.Proofs.Sql.Compilation
import SqlBuilder.Proofs.Sql.Rows

/-!
# Records after a history

What a record holds after operations can be told from what was stored in it since it was last replaced: every column
once, where it was first stored, with the value that was stored last.

* `Record.sinceReplaced` : what was stored since the last replacement, with the number that each fragment was given;
  the record is that of these entries (`Record.applyAll_eq`).
* `Record.lastEntries` : what is left of a history.
* `Record.Reflects` : all that can be observed of a record, told from a history.
* `applyAll_reflects_stored` : records after any operations, and updates with them.
-/

namespace SqlBuilder

set_option autoImplicit false

namespace Record

/-! ## What was stored -/

/-- The number of different ordinal keys in a history. -/
def ordinalCount (history : List (String × Value)) : Nat := ((history.map Prod.fst).filter isOrdinalKey).toFinset.card

/-- The history with one operation more. A fragment is stored under the number of ordinal keys, and a replacement
begins a new history. -/
def extend (history : List (String × Value)) : Operation → List (String × Value)
  | .set column value => history ++ [(column, value)]
  | .addFragment fragment => history ++ [(toString (ordinalCount history), .raw fragment)]
  | .collect entries => entries
  | .convert members => members.map fun member => (member.1, .ofJson member.2)

/-- What was stored since the record was last replaced. -/
def sinceReplaced (operations : List Operation) : List (String × Value) := operations.foldl extend []

theorem sinceReplaced_concat (operations : List Operation) (operation : Operation) :
    sinceReplaced (operations ++ [operation]) = extend (sinceReplaced operations) operation := by
  rw [sinceReplaced, List.foldl_concat]
  rfl

theorem ofEntries_concat (history : List (String × Value)) (column : String) (value : Value) :
    ofEntries (history ++ [(column, value)]) = (ofEntries history).set column value :=
  KeyedList.ofList_concat history (column, value)

theorem nextOrdinal_ofEntries (history : List (String × Value)) :
    (ofEntries history).nextOrdinal = toString (ordinalCount history) := by
  have nodup : ((ofEntries history).columns.filter isOrdinalKey).Nodup := (ofEntries history).keys_nodup.filter _
  have same : ((ofEntries history).columns.filter isOrdinalKey).toFinset =
      ((history.map Prod.fst).filter isOrdinalKey).toFinset := by
    ext key
    rw [columns_ofEntries, List.mem_toFinset, List.mem_toFinset, List.mem_filter, List.mem_filter, List.mem_eraseDups]
  rw [nextOrdinal, List.countP_eq_length_filter, ← List.toFinset_card_of_nodup nodup, same, ordinalCount]

theorem applyAll_eq (operations : List Operation) : applyAll operations = ofEntries (sinceReplaced operations) := by
  -- From the end, so that the history of the operations before decides the key of a fragment.
  induction operations using List.reverseRecOn with
  | nil => rfl
  | append_singleton operations operation ih =>
    rw [applyAll_concat, ih, sinceReplaced_concat]
    cases operation with
    | set column value => exact (ofEntries_concat _ column value).symm
    | addFragment fragment =>
      rw [apply, addFragment, nextOrdinal_ofEntries]
      exact (ofEntries_concat _ _ (.raw fragment)).symm
    | collect entries => rfl
    | convert members => rfl

/-! ## What is left of it -/

/-- Every column once, where it was first stored, with the value that was stored last. -/
def lastEntries (history : List (String × Value)) : List (String × Value) :=
  (history.map Prod.fst).eraseDups.filterMap fun column => history.reverse.find? fun entry => entry.1 = column

/-- The record is told from a history. -/
structure Reflects (r : Record) (history : List (String × Value)) : Prop where
  distinct : r.columns.Nodup
  order : r.columns = (history.map Prod.fst).eraseDups
  last : ∀ column, r.get? column = (history.reverse.find? fun entry => entry.1 = column).map Prod.snd
  present : ∀ column, (r.get? column).isSome = true ↔ column ∈ r.columns
  entries : r.entries = lastEntries history
  size : r.size = (history.map Prod.fst).toFinset.card
  rebuilt : ofEntries r.entries = r

theorem ofEntries_reflects (history : List (String × Value)) : (ofEntries history).Reflects history where
  distinct := (ofEntries history).keys_nodup
  order := columns_ofEntries history
  last column := congrArg (Option.map Prod.snd) (KeyedList.get?_ofList history column)
  present column := by
    rw [← not_iff_not, Option.not_isSome_iff_eq_none, Sql.get?_eq_none_iff]
  entries := KeyedList.toList_ofList history
  size := KeyedList.size_ofList history
  rebuilt := KeyedList.ofList_toList (ofEntries history)

end Record

/-! ## Updates -/

/-- The assignments of a history, each column once. -/
theorem Record.Reflects.updateParameters {r : Record} {history : List (String × Value)} (h : r.Reflects history) :
    Sql.updateParameters (.map r) =
      "SET " ++ ",".intercalate ((lastEntries history).map fun entry => entry.1 ++ " = " ++ entry.2.literal) := by
  rw [← h.entries]
  rfl

/-- After any sequence of operations a record holds what was stored since it was last replaced: every column once, in
the order in which the columns were first stored, each with the value that was stored last; a look finds this value,
and nothing under other keys. An update with the record assigns these columns and values, in this order. -/
theorem applyAll_reflects_stored (operations : List Record.Operation) :
    (Record.applyAll operations).Reflects (Record.sinceReplaced operations) ∧
    ∀ policy clauses, Clauses.verb? clauses = some .update →
      clauses.params? = some (.map (Record.applyAll operations)) →
      ((Record.lastEntries (Record.sinceReplaced operations)).map Prod.fst).Nodup ∧
      compile policy clauses = .ok (Sql.assemble (Sql.fragmentsWith clauses (some ("SET " ++ ",".intercalate
        ((Record.lastEntries (Record.sinceReplaced operations)).map fun entry =>
          entry.1 ++ " = " ++ entry.2.literal))))) := by
  have reflects : (Record.applyAll operations).Reflects (Record.sinceReplaced operations) := by
    rw [Record.applyAll_eq]
    exact Record.ofEntries_reflects _
  refine ⟨reflects, fun policy clauses hverb hparams => ⟨?_, ?_⟩⟩
  · rw [← reflects.entries]
    exact reflects.distinct
  · rw [compile_eq_of_update policy hverb hparams, reflects.updateParameters]

/-- A replacement, and then a fragment whose number is a key already. -/
def replacedThenNumbered : List Record.Operation :=
  [.set "lost" .null, .convert [("b", .bool true), ("a", .null)], .set "1" (.text "x"), .addFragment "NOW()",
    .set "b" (.int 2)]

theorem applyAll_reflects_stored_update :
    (Record.applyAll replacedThenNumbered).Reflects
      [("b", .bool true), ("a", .null), ("1", .text "x"), ("1", .raw "NOW()"), ("b", .int 2)] ∧
    compile .strict (.ofList [.params (.map (Record.applyAll replacedThenNumbered)), .verb .update, .table "t"]) =
      .ok "UPDATE t SET b = 2,a = null,1 = NOW()" := by
  obtain ⟨reflects, update⟩ := applyAll_reflects_stored replacedThenNumbered
  refine ⟨reflects, ?_⟩
  rw [(update .strict _ rfl rfl).2]
  rfl

end SqlBuilder

import SqlBuilder.Proofs.Clause.Storing
import SqlBuilder.Proofs.Record.Operations
import SqlBuilder.Proofs.Sql.Predicates

/-!
# Conditions that are made part by part

A condition can be made of fragments and of columns with their values, in any order. Nothing is lost of it: every
fragment and every column is one item, where it was first given, and a column has the value that it was given last.

* `ConditionPart`, `recordOf` : one part, and the record of a sequence of parts.
* `itemsOf` : what a sequence of parts says, told without the record.
* `said_addFragment`, `said_set_of_mem`, `said_set_of_not_mem` : what one part more changes in what a record says.
* `conditions_foldl` : what a record says after parts.
* `compile_filter_only` : the text of a statement that has a condition and nothing else.
* `condition_says_items` : the condition of a record in a statement is made of the items.
-/

namespace SqlBuilder

set_option autoImplicit false

namespace Sql

/-! ## Parts and what they say -/

/-- One part of a condition: a fragment, or a value for a column. The name of the column is no ordinal. -/
inductive ConditionPart where
  | fragment (sql : String)
  | comparison (column : String) (named : Record.isOrdinalKey column = false) (value : Value)

namespace ConditionPart

def apply (r : Record) : ConditionPart → Record
  | fragment sql => r.addFragment sql
  | comparison column _ value => r.set column value

/-- The value of a column after a part, given the one before it. -/
def valueAfter (column : String) (value : Value) : ConditionPart → Value
  | fragment _ => value
  | comparison other _ new => if other = column then new else value

end ConditionPart

/-- The record that is made of parts. -/
def recordOf (parts : List ConditionPart) : Record := parts.foldl ConditionPart.apply .empty

/-- The value of a column after parts, given the one before them. -/
def lastValue (column : String) (value : Value) (parts : List ConditionPart) : Value :=
  parts.foldl (ConditionPart.valueAfter column) value

/-- What parts say when some columns are given already: an item for each fragment and for each other column. A column
stands where it is given first, with the value that it is given last. -/
def itemsOf (given : List String) : List ConditionPart → List String
  | [] => []
  | .fragment sql :: parts => sql :: itemsOf given parts
  | .comparison column _ value :: parts =>
    if column ∈ given then itemsOf given parts
    else (column ++ " = " ++ (lastValue column value parts).rawText) :: itemsOf (column :: given) parts

/-- The clause of items that stand apart by spaces. Items that say nothing have none. -/
def itemsClause? (items : List String) : Option String :=
  if Text.trim (" ".intercalate items) = "" then none else some ("WHERE " ++ Text.trim (" ".intercalate items))

/-! ## One part more -/

theorem predicate_of_named {column : String} (h : Record.isOrdinalKey column = false) (value : Value) :
    predicate column value = column ++ " = " ++ value.rawText := by
  rw [predicate, if_neg (by simp [h])]

theorem ne_of_ordinal {key column : String} (hkey : Record.isOrdinalKey key = true)
    (hcolumn : Record.isOrdinalKey column = false) : column ≠ key := by
  rintro rfl
  rw [hkey] at hcolumn
  cases hcolumn

theorem lastValue_of_ordinal {key : String} (h : Record.isOrdinalKey key = true) (value : Value)
    (parts : List ConditionPart) : lastValue key value parts = value := by
  induction parts with
  | nil => rfl
  | cons part parts ih =>
    cases part with
    | fragment sql => exact ih
    | comparison column named new =>
      rw [lastValue, List.foldl_cons, ConditionPart.valueAfter, if_neg (ne_of_ordinal h named)]
      exact ih

/-- What the entries of a record say once parts have given their values. -/
def said (r : Record) (parts : List ConditionPart) : List String :=
  r.entries.map fun entry => predicate entry.1 (lastValue entry.1 entry.2 parts)

theorem said_addFragment {r : Record} (hr : r.Consecutive) (sql : String) (parts : List ConditionPart) :
    said (r.addFragment sql) parts = said r (.fragment sql :: parts) ++ [sql] := by
  have ordinal := Record.isOrdinalKey_nextOrdinal r
  rw [said, Record.entries_addFragment_of_not_mem hr.nextOrdinal_not_mem, List.map_append, List.map_singleton,
    lastValue_of_ordinal ordinal, Record.predicate_ordinal ordinal]
  rfl

section Comparison
variable {r : Record} {column : String} (named : Record.isOrdinalKey column = false) (value : Value)
  (parts : List ConditionPart)

theorem said_set_of_mem (h : column ∈ r.columns) :
    said (r.set column value) parts = said r (.comparison column named value :: parts) := by
  rw [said, said, Record.entries_set_of_mem h, List.map_map]
  apply List.map_congr_left
  intro entry _
  by_cases hentry : entry.1 = column
  · subst hentry
    rw [Function.comp_apply, if_pos rfl, lastValue, lastValue, List.foldl_cons, ConditionPart.valueAfter, if_pos rfl]
  · rw [Function.comp_apply, if_neg hentry, lastValue, lastValue, List.foldl_cons, ConditionPart.valueAfter,
      if_neg (Ne.symm hentry)]

theorem said_set_of_not_mem (h : column ∉ r.columns) :
    said (r.set column value) parts = said r (.comparison column named value :: parts) ++
      [column ++ " = " ++ (lastValue column value parts).rawText] := by
  have others : ∀ entry ∈ r.entries, lastValue entry.1 entry.2 (.comparison column named value :: parts) =
      lastValue entry.1 entry.2 parts := by
    intro entry hentry
    have hne : column ≠ entry.1 := by
      rintro rfl
      exact h (List.mem_map_of_mem hentry)
    rw [lastValue, List.foldl_cons, ConditionPart.valueAfter, if_neg hne]
    rfl
  rw [said, said, Record.entries_set_of_not_mem h, List.map_append, List.map_singleton, predicate_of_named named]
  congr 1
  apply List.map_congr_left
  intro entry hentry
  rw [others entry hentry]

end Comparison

/-! ## All parts -/

/-- The columns of a record that are no ordinals are the given ones. -/
def Given (given : List String) (r : Record) : Prop :=
  ∀ column, Record.isOrdinalKey column = false → (column ∈ given ↔ column ∈ r.columns)

theorem Given.addFragment {given : List String} {r : Record} (h : Given given r) (hr : r.Consecutive) (sql : String) :
    Given given (r.addFragment sql) := by
  intro column hcolumn
  have hne : column ≠ r.nextOrdinal := ne_of_ordinal (Record.isOrdinalKey_nextOrdinal r) hcolumn
  rw [h column hcolumn, hr.columns_addFragment, List.mem_append, List.mem_singleton, or_iff_left hne]

/-- What a record says after parts: its own entries with the values of the parts, and then the items. -/
theorem conditions_foldl {r : Record} (hr : r.Consecutive) {given : List String} (hgiven : Given given r)
    (parts : List ConditionPart) :
    (parts.foldl ConditionPart.apply r).conditions = said r parts ++ itemsOf given parts := by
  -- The parts that are still to come decide the values of the entries that are there, so `said` takes them along.
  induction parts generalizing r given with
  | nil => exact (List.append_nil _).symm
  | cons part parts ih =>
    rw [List.foldl_cons]
    cases part with
    | fragment sql =>
      rw [ConditionPart.apply, ih (hr.addFragment sql) (hgiven.addFragment hr sql), said_addFragment hr, itemsOf,
        List.append_assoc, List.singleton_append]
    | comparison column named value =>
      rw [ConditionPart.apply, itemsOf]
      by_cases hcolumn : column ∈ given
      · have present : column ∈ r.columns := (hgiven column named).1 hcolumn
        have hgiven' : Given given (r.set column value) := by
          rwa [Given, Record.columns_set, if_pos present]
        rw [ih (hr.set named value) hgiven', said_set_of_mem named value parts present, if_pos hcolumn]
      · have absent : column ∉ r.columns := fun h => hcolumn ((hgiven column named).2 h)
        have hgiven' : Given (column :: given) (r.set column value) := by
          intro other hother
          rw [Record.columns_set, if_neg absent, List.mem_append, List.mem_singleton, List.mem_cons, hgiven other hother,
            or_comm]
        rw [ih (hr.set named value) hgiven', said_set_of_not_mem named value parts absent, if_neg hcolumn,
          List.append_assoc, List.singleton_append]

theorem conditions_recordOf (parts : List ConditionPart) : (recordOf parts).conditions = itemsOf [] parts := by
  have none : Given [] .empty := fun column _ => Iff.rfl
  rw [recordOf, conditions_foldl Record.consecutive_empty none]
  rfl

theorem conditionClause?_recordOf (parts : List ConditionPart) :
    conditionClause? (.map (recordOf parts)) = itemsClause? (itemsOf [] parts) := by
  rw [itemsClause?, ← conditions_recordOf, ← Record.predicates_eq]
  rfl

theorem itemsOf_fragments (given sqls : List String) : itemsOf given (sqls.map ConditionPart.fragment) = sqls := by
  induction sqls with
  | nil => rfl
  | cons sql sqls ih => rw [List.map_cons, itemsOf, ih]

/-- Values that are added one by one as fragments say what the list of them says. -/
theorem conditionClause?_fragments (values : List Value) :
    conditionClause? (.map (recordOf (values.map fun value => .fragment value.rawText))) =
      conditionClause? (.list values) := by
  have fragments : values.map (fun value => ConditionPart.fragment value.rawText) =
      (values.map Value.rawText).map ConditionPart.fragment := by rw [List.map_map]; rfl
  rw [conditionClause?_recordOf, fragments, itemsOf_fragments]
  rfl

/-! ## A condition alone -/

theorem trim_conditionClause? {payload : Payload} {sql : String} (h : conditionClause? payload = some sql) :
    Text.trim sql = sql := by
  have keyword : Text.Trimmed "WHERE".toList := by
    constructor
    · intro c hc
      obtain rfl : 'W' = c := Option.some.inj hc
      decide
    · intro c hc
      obtain rfl : 'E' = c := Option.some.inj hc
      decide
  obtain ⟨said, rfl⟩ := conditionClause?_eq_some_iff.1 h
  have solid : (Text.trim (condition payload)).toList ≠ [] := by
    rw [Ne, String.toList_eq_nil_iff]
    exact trim_condition_ne_empty said
  have chars : ("WHERE " ++ Text.trim (condition payload)).toList =
      "WHERE".toList ++ ([' '] ++ (Text.trim (condition payload)).toList) := by
    rw [String.toList_append, ← List.append_assoc]
    rfl
  apply Text.Trimmed.trim_eq
  rw [chars]
  exact keyword.append (Text.trimmed_trim _) (by decide) solid [' ']

theorem assemble_spaced (text : Option String) : assemble (spaced text) = Text.trim (text.getD "") := by
  cases text with
  | none => rfl
  | some sql =>
    have alone : assemble (spaced (some sql)) = Text.trim (Assembly.append {} ⟨sql, .spaced⟩).text := rfl
    rw [alone, Assembly.append]
    by_cases h : sql = ""
    · rw [if_pos h, h]
      rfl
    · rw [if_neg h]
      exact congrArg Text.trim (String.empty_append)

theorem compile_filter_only (payload : Payload) :
    compile {} (.ofList [.filter payload]) = .ok ((conditionClause? payload).getD "") := by
  have trimmed : Text.trim ((conditionClause? payload).getD "") = (conditionClause? payload).getD "" := by
    cases h : conditionClause? payload with
    | none => rfl
    | some sql => exact trim_conditionClause? h
  have fragments : fragmentsWith (.ofList [.filter payload]) none = spaced (conditionClause? payload) := by
    have verb : Clauses.verb? (.ofList [.filter payload]) = none := rfl
    have table : Clauses.table? (.ofList [.filter payload]) = none := rfl
    have filter : Clauses.filter? (.ofList [.filter payload]) = some payload := rfl
    have customs : Clauses.customs (.ofList [.filter payload]) = [] := rfl
    have order : Clauses.order? (.ofList [.filter payload]) = none := rfl
    have limit : Clauses.limit? (.ofList [.filter payload]) = none := rfl
    rw [fragmentsWith, verb, table, filter, customs, order, limit]
    simp [target, spaced]
  rw [compile_eq_ok_iff]
  refine ⟨Bool.false_ne_true.elim, none, rfl, ?_⟩
  rw [fragments, assemble_spaced, trimmed]

end Sql

/-- A record that is made of fragments and columns is a condition of one item for each fragment and for each column, in
the order in which they are first given, a column with the value that it is given last. In a statement it stands behind
its keyword, trimmed, unless it says nothing; a statement with other clauses treats it like the text of the items. Of
fragments alone it is the condition of the list of them. -/
theorem condition_says_items (parts : List Sql.ConditionPart) (values : List Value) (policy : CompilePolicy)
    (clauses : Clauses) :
    Sql.conditionClause? (.map (Sql.recordOf parts)) = Sql.itemsClause? (Sql.itemsOf [] parts) ∧
    compile {} (.ofList [.filter (.map (Sql.recordOf parts))]) =
      .ok ((Sql.itemsClause? (Sql.itemsOf [] parts)).getD "") ∧
    compile policy (clauses.store (.filter (.map (Sql.recordOf parts)))) =
      compile policy (clauses.store (.filter (.text (" ".intercalate (Sql.itemsOf [] parts))))) ∧
    Sql.conditionClause? (.map (Sql.recordOf (values.map fun value => .fragment value.rawText))) =
      Sql.conditionClause? (.list values) ∧
    compile policy (clauses.store (.filter (.map (Sql.recordOf (values.map fun value => .fragment value.rawText))))) =
      compile policy (clauses.store (.filter (.list values))) := by
  have clause := Sql.conditionClause?_recordOf parts
  have fragments := Sql.conditionClause?_fragments values
  refine ⟨clause, ?_, compile_store_filter clauses policy ?_, fragments, compile_store_filter clauses policy fragments⟩
  · rw [Sql.compile_filter_only, clause]
  · rw [clause]
    rfl

/-- A fragment that is said twice stays twice, and a column that is given twice stays where it was. -/
example : Sql.itemsOf [] [.fragment "a", .comparison "k" rfl (.int 1), .fragment "a", .comparison "k" rfl (.int 2)] =
    ["a", "k = 2", "a"] := by decide

end SqlBuilder

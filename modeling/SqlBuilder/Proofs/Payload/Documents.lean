import Mathlib.Data.List.Forall2
import SqlBuilder.Proofs.Clause.Storing

/-!
# Rows in a document

The rows of an insert can be given as records, or as a document that is an array of objects. As long as there is a
row the two are the same; an array without items says nothing about rows and is an empty list of values.

* `Payload.ofJson_objects` : the payload of an array of objects.
* `Payload.ofDatum_list` : the payload of a list of data that are serialized to objects.
* `insert_documents` : the two ways of giving the rows of an insert.
-/

namespace SqlBuilder

set_option autoImplicit false

namespace Payload

theorem recordsOf?_objects (objects : List (List (String × Json))) :
    recordsOf? (objects.map Json.object) = some (objects.map Record.ofMembers) := by
  induction objects with
  | nil => rfl
  | cons members objects ih =>
    rw [List.map_cons, List.map_cons, recordsOf?, ih]
    rfl

theorem ofJson_objects {objects : List (List (String × Json))} (h : objects ≠ []) :
    ofJson (.array (objects.map Json.object)) = rows (objects.map Record.ofMembers) := by
  have records := recordsOf?_objects objects
  cases objects with
  | nil => exact absurd rfl h
  | cons members objects =>
    rw [List.map_cons] at records ⊢
    rw [ofJson]
    unfold ofItems
    rw [records]

/-- Data that are serialized to objects one by one make the array of these objects. -/
theorem ofDatum_list {data : List Datum} {objects : List (List (String × Json))}
    (h : List.Forall₂ (fun d members => d.toJson = .ok (.object members)) data objects) :
    ofDatum (.list data) = .ok (ofJson (.array (objects.map Json.object))) := by
  have items : Datum.toJsonItems data = .ok (objects.map Json.object) := by
    induction h with
    | nil => rfl
    | cons first _ ih =>
      rw [Datum.toJsonItems, first, ih]
      rfl
  rw [ofDatum, Datum.toJson, items]
  rfl

end Payload

/-- Rows that are given as a document or serialized are inserted like records, if there are any: the texts are the
same, or the same fault is found in them. Without rows the records are refused, and the document is a list without
values. -/
theorem insert_documents (policy : CompilePolicy) (clauses : Clauses) (objects : List (List (String × Json)))
    (hverb : clauses.verb? = some .insert) :
    (objects ≠ [] →
      (∃ sql,
        compile policy (clauses.store (.params (.ofJson (.array (objects.map Json.object))))) = .ok sql ∧
        compile policy (clauses.store (.params (.rows (objects.map Record.ofMembers)))) = .ok sql) ∨
      ∃ fault,
        compile policy (clauses.store (.params (.ofJson (.array (objects.map Json.object))))) =
          .error (.malformedInsert fault) ∧
        compile policy (clauses.store (.params (.rows (objects.map Record.ofMembers)))) =
          .error (.malformedInsert fault)) ∧
    (objects = [] →
      compile policy (clauses.store (.params (.ofJson (.array (objects.map Json.object))))) =
        .ok (Sql.assemble (Sql.fragmentsWith clauses (some "VALUES ()"))) ∧
      compile policy (clauses.store (.params (.rows (objects.map Record.ofMembers)))) =
        .error (.malformedInsert .noRows)) ∧
    ∀ data, List.Forall₂ (fun d members => Datum.toJson d = .ok (.object members)) data objects →
      Payload.ofDatum (.list data) = .ok (.ofJson (.array (objects.map Json.object))) := by
  refine ⟨?_, ?_, fun data => Payload.ofDatum_list⟩
  · intro hobjects
    rw [Payload.ofJson_objects hobjects, compile_insert_params clauses _ policy hverb]
    cases Sql.insertParameters (.rows (objects.map Record.ofMembers)) with
    | ok text => exact .inl ⟨_, rfl, rfl⟩
    | error fault => exact .inr ⟨fault, rfl, rfl⟩
  · rintro rfl
    rw [compile_insert_params clauses _ policy hverb, compile_insert_params clauses _ policy hverb]
    exact ⟨rfl, rfl⟩

/-- An insert without rows. -/
def bareInsert : Clauses := .ofList [.table "t", .verb .insert]

/-- Two objects with the same keys in different order. -/
def documents : List (List (String × Json)) :=
  [[("a", .bool true), ("b", .string "x'")], [("b", .array []), ("a", .null)]]

theorem insert_documents_two :
    compile {} (bareInsert.store (.params (.ofJson (.array (documents.map Json.object))))) =
      compile {} (bareInsert.store (.params (.rows (documents.map Record.ofMembers)))) ∧
    compile {} (bareInsert.store (.params (.rows (documents.map Record.ofMembers)))) =
      .ok "INSERT INTO t (a,b) VALUES (true,'x\\''),(null,'[]')" := by
  have written : compile {} (bareInsert.store (.params (.rows (documents.map Record.ofMembers)))) =
      .ok "INSERT INTO t (a,b) VALUES (true,'x\\''),(null,'[]')" := rfl
  refine ⟨?_, written⟩
  obtain ⟨sql, document, records⟩ | ⟨fault, document, records⟩ :=
    (insert_documents {} bareInsert documents rfl).1 (by decide)
  · rw [document, records]
  · rw [document, records]

/-- A document without rows is inserted, and a list of records without rows is not. -/
theorem insert_documents_none :
    compile {} (bareInsert.store (.params (.ofJson (.array (List.map Json.object []))))) =
      .ok "INSERT INTO t VALUES ()" ∧
    compile {} (bareInsert.store (.params (.rows (List.map Record.ofMembers [])))) =
      .error (.malformedInsert .noRows) :=
  ⟨rfl, rfl⟩

end SqlBuilder

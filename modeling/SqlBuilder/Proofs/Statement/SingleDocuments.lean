import SqlBuilder.Proofs.Payload.Shapes
import SqlBuilder.Proofs.Statement.Naming

/-!
# Documents for a table, a limit and an ordering

A table, a limit and an ordering take one text. A document says one text if it is a scalar of any kind, or an array
with one scalar in it.

* `Json.IsSingle` : such documents.
* `Payload.exists_single_ofJson_iff` : the document decides it, before its payload is looked at.
* `declareByName_document_iff` : which documents are accepted, and what comes of the others.
-/

namespace SqlBuilder

set_option autoImplicit false

/-! ## Documents that say one text -/

/-- A scalar, or an array with a scalar and nothing else. -/
def Json.IsSingle (document : Json) : Prop :=
  document.isScalar = true ∨ ∃ item, document = .array [item] ∧ item.isScalar = true

/-- The value of a scalar is plain, and no other document has a plain value. -/
theorem Value.ofJson_plain_iff {document : Json} :
    (∀ structured, Value.ofJson document ≠ .json structured) ↔ document.isScalar = true := by
  cases document with
  | array items => exact iff_of_false (fun plain => plain _ rfl) Bool.false_ne_true
  | object members => exact iff_of_false (fun plain => plain _ rfl) Bool.false_ne_true
  | number n =>
    refine iff_of_true (fun structured => ?_) rfl
    cases n with
    | int n lower upper =>
      rw [ofJson, ofNumber]
      split <;> exact Value.noConfusion
    | float x finite => exact Value.noConfusion
  | _ => exact iff_of_true (fun _ => Value.noConfusion) rfl

namespace Payload

theorem exists_single_list_iff {values : List Value} :
    (∃ text, (list values).Single text) ↔ ∃ value, values = [value] ∧ ∀ structured, value ≠ .json structured := by
  constructor
  · rintro ⟨_, _ | ⟨value, plain⟩⟩
    exact ⟨value, rfl, plain⟩
  · rintro ⟨value, rfl, plain⟩
    exact ⟨_, .value value plain⟩

theorem exists_single_ofJson_iff {document : Json} : (∃ text, (ofJson document).Single text) ↔ document.IsSingle := by
  have detected := detected_ofJson document
  generalize ofJson document = payload at detected
  cases detected with
  | rows nonempty =>
    -- An array with one object is a list of rows, and an object is no scalar.
    constructor
    · rintro ⟨_, ⟨⟩⟩
    · rintro (scalar | ⟨item, harray, scalar⟩)
      · cases scalar
      · obtain ⟨members, -, rfl⟩ := List.mem_map.1 ((Json.array.inj harray) ▸ List.mem_singleton_self item)
        cases scalar
  | @list items other =>
    rw [exists_single_list_iff]
    constructor
    · rintro ⟨value, hvalue, plain⟩
      obtain ⟨item, rfl, rfl⟩ := List.map_eq_singleton_iff.1 hvalue
      exact .inr ⟨item, rfl, Value.ofJson_plain_iff.1 plain⟩
    · rintro (scalar | ⟨item, harray, scalar⟩)
      · cases scalar
      · cases harray
        exact ⟨Value.ofJson item, rfl, Value.ofJson_plain_iff.2 scalar⟩
  | map members =>
    constructor
    · rintro ⟨_, ⟨⟩⟩
    · rintro (scalar | ⟨item, harray, -⟩)
      · cases scalar
      · cases harray
  | text scalar sql => exact iff_of_true ⟨sql, .text sql⟩ (.inl scalar)

end Payload

/-! ## The declaration -/

namespace Statement

theorem not_mem_freeWords_of_mem_singleWords {word : String} (h : word ∈ singleWords) : word ∉ freeWords := by
  simp only [singleWords, List.mem_cons, List.not_mem_nil, or_false] at h
  obtain rfl | rfl | rfl := h <;> decide

theorem declareByName_eq_ok_iff_single (s : Statement) {name : String} {payload : Payload}
    (word : Clause.Name.lowerCase name ∈ singleWords) :
    (s.declareByName name payload).1 = .ok () ↔ ∃ text, payload.Single text := by
  rw [declareByName_eq_ok_iff, exists_standsFor_iff, or_iff_right (not_mem_freeWords_of_mem_singleWords word),
    and_iff_right word]

end Statement

open Statement in
/-- A document for a table, a limit or an ordering is accepted exactly if it is a scalar, or an array with one scalar
and nothing else. Any other is reported with the word and the shape of its payload, and the statement stays as it
was. -/
theorem declareByName_document_iff (s : Statement) (name : String)
    (word : Clause.Name.lowerCase name ∈ ["table", "limit", "order"]) (document : Json) :
    ((s.declareByName name (.ofJson document)).1 = .ok () ↔
      document.isScalar = true ∨ ∃ item, document = .array [item] ∧ item.isScalar = true) ∧
    (¬ (document.isScalar = true ∨ ∃ item, document = .array [item] ∧ item.isScalar = true) →
      s.declareByName name (.ofJson document) =
        (.error (.invalidPayload (Clause.Name.lowerCase name) (.notSingle (Payload.ofJson document).shape)), s)) := by
  have single : (∃ text, (Payload.ofJson document).Single text) ↔ document.IsSingle := Payload.exists_single_ofJson_iff
  constructor
  · exact (s.declareByName_eq_ok_iff_single word).trans single
  · intro other
    exact s.declareByName_of_error (namedClause_of_not_single word fun text h => other (single.1 ⟨text, h⟩))

theorem declareByName_document_accepted :
    (({} : Statement).declareByName "LiMiT" (.ofJson (.array [.bool true]))).1 = .ok () ∧
    ({} : Statement).declareByName "Order" (.ofJson (.array [.null, .null])) =
      (.error (.invalidPayload "order" (.notSingle .list)), {}) := by
  obtain ⟨accepted, -⟩ := declareByName_document_iff {} "LiMiT" (by decide) (.array [.bool true])
  obtain ⟨-, refused⟩ := declareByName_document_iff {} "Order" (by decide) (.array [.null, .null])
  refine ⟨accepted.2 (.inr ⟨_, rfl, rfl⟩), refused ?_⟩
  rintro (scalar | ⟨item, harray, -⟩)
  · cases scalar
  · cases harray

/-- A string or a number. -/
def Json.IsTextOrNumber (document : Json) : Prop :=
  (∃ s, document = .string s) ∨ ∃ n, document = .number n

/-- Neither `true` nor `null` is a string or a number, and both are taken for a text. -/
theorem declareByName_takes_true_and_null :
    (({} : Statement).delete.declareByName "table" (.ofJson (.bool true))).2.compile = .ok "DELETE FROM true" ∧
    ({} : Statement).declareByName "limit" (.ofJson .null) = (.ok (), ({} : Statement).limit "") ∧
    ¬ ∀ (s : Statement) (name : String) (document : Json), Clause.Name.lowerCase name ∈ Statement.singleWords →
      ((s.declareByName name (.ofJson document)).1 = .ok () ↔
        document.IsTextOrNumber ∨ ∃ item, document = .array [item] ∧ item.IsTextOrNumber) := by
  have limit : ({} : Statement).declareByName "limit" (.ofJson .null) = (.ok (), ({} : Statement).limit "") := rfl
  refine ⟨rfl, limit, ?_⟩
  intro claimed
  have accepted : (({} : Statement).declareByName "limit" (.ofJson .null)).1 = .ok () := by rw [limit]
  obtain (⟨s, h⟩ | ⟨n, h⟩) | ⟨item, h, -⟩ := (claimed {} "limit" .null (by decide)).1 accepted
  · cases h
  · cases h
  · cases h

end SqlBuilder

import SqlBuilder.Proofs.Json.WellFormed
import SqlBuilder.Proofs.Payload.Documents

/-!
# The shape of a document

A document has the shape of rows, of a list, of a map or of a text, and nothing of an array or an object is lost in
its payload.

* `Json.IsTable` : an array of objects and nothing else, with one object at least.
* `Record.Holds` : a record with the members of an object for entries.
* `Payload.Detected`, `Payload.detected_ofJson` : the payload of a document, by kind of document.
* `ofJson_detects_shape` : the shapes and what the payload of each holds.
-/

namespace SqlBuilder

set_option autoImplicit false

/-! ## Kinds of documents -/

namespace Json

def isScalar : Json → Bool
  | array _ | object _ => false
  | _ => true

theorem isScalar_iff {document : Json} :
    document.isScalar = true ↔ (∀ items, document ≠ array items) ∧ ∀ members, document ≠ object members := by
  cases document <;> simp [isScalar]

/-- An array that holds objects, at least one, and nothing else. -/
def IsTable (document : Json) : Prop :=
  ∃ items, document = array items ∧ items ≠ [] ∧ ∀ item ∈ items, item.isObject = true

theorem isObject_iff {document : Json} : document.isObject = true ↔ ∃ members, document = object members := by
  cases document with
  | object members => exact iff_of_true rfl ⟨members, rfl⟩
  | _ => simp [isObject]

theorem exists_objects {items : List Json} (h : ∀ item ∈ items, item.isObject = true) :
    ∃ objects, items = List.map object objects := by
  induction items with
  | nil => exact ⟨[], rfl⟩
  | cons item items ih =>
    obtain ⟨first, rest⟩ := List.forall_mem_cons.1 h
    obtain ⟨members, rfl⟩ := isObject_iff.1 first
    obtain ⟨objects, rfl⟩ := ih rest
    exact ⟨members :: objects, rfl⟩

theorem isTable_iff {document : Json} :
    document.IsTable ↔ ∃ objects, objects ≠ [] ∧ document = array (List.map object objects) := by
  constructor
  · rintro ⟨items, rfl, hne, hitems⟩
    obtain ⟨objects, rfl⟩ := exists_objects hitems
    exact ⟨objects, by simpa using hne, rfl⟩
  · rintro ⟨objects, hne, rfl⟩
    refine ⟨_, rfl, by simpa using hne, fun item hitem => ?_⟩
    obtain ⟨members, -, rfl⟩ := List.mem_map.1 hitem
    rfl

end Json

/-! ## The record of an object -/

namespace Record

/-- The entries of the record are the members of the object, each with its value and in their order. -/
def Holds (r : Record) (document : Json) : Prop :=
  ∃ members, document = .object members ∧ r.entries = members.map fun member => (member.1, Value.ofJson member.2)

theorem entries_ofEntries {entries : List (String × Value)} (h : (entries.map Prod.fst).Nodup) :
    (ofEntries entries).entries = entries :=
  KeyedList.toList_putAll_of_nodup {} entries h

theorem holds_ofMembers {members : List (String × Json)} (h : (Json.object members).WellFormed) :
    (ofMembers members).Holds (.object members) := by
  refine ⟨members, rfl, entries_ofEntries ?_⟩
  rw [List.map_map]
  exact h.distinct

end Record

/-! ## The payload of each kind of document -/

namespace Payload

variable {document : Json}

/-- A document and what becomes of it, by kind of document. -/
inductive Detected : Json → Payload → Prop
  | rows {objects : List (List (String × Json))} (nonempty : objects ≠ []) :
      Detected (.array (objects.map Json.object)) (.rows (objects.map Record.ofMembers))
  | list {items : List Json} (other : ¬ (Json.array items).IsTable) :
      Detected (.array items) (.list (items.map Value.ofJson))
  | map (members : List (String × Json)) : Detected (.object members) (.map (.ofMembers members))
  | text {document : Json} (scalar : document.isScalar = true) (sql : String) : Detected document (.text sql)

theorem recordsOf?_eq_none {items : List Json} (h : ∃ item ∈ items, item.isObject = false) :
    recordsOf? items = none := by
  induction items with
  | nil => simp at h
  | cons item items ih =>
    cases item with
    | object members =>
      have later : ∃ item ∈ items, item.isObject = false := by simpa [Json.isObject] using h
      rw [recordsOf?, ih later]
      rfl
    | _ => rfl

theorem ofJson_of_not_isTable {items : List Json} (h : ¬ (Json.array items).IsTable) :
    ofJson (.array items) = list (items.map Value.ofJson) := by
  cases items with
  | nil => rfl
  | cons item items =>
    have other : ∃ other ∈ item :: items, other.isObject = false := by
      by_contra none
      refine h ⟨_, rfl, List.cons_ne_nil item items, fun other hother => ?_⟩
      by_contra hobject
      exact none ⟨other, hother, by simpa using hobject⟩
    rw [ofJson]
    unfold ofItems
    rw [recordsOf?_eq_none other]

theorem detected_ofJson (document : Json) : Detected document (ofJson document) := by
  cases document with
  | array items =>
    by_cases table : (Json.array items).IsTable
    · obtain ⟨objects, nonempty, harray⟩ := Json.isTable_iff.1 table
      rw [harray, ofJson_objects nonempty]
      exact .rows nonempty
    · rw [ofJson_of_not_isTable table]
      exact .list table
  | object members => exact .map members
  | null => exact .text rfl ""
  | string s => exact .text rfl s
  | bool b => exact .text rfl (Json.bool b).compact
  | number n => exact .text rfl (Json.number n).compact

/-- A table is no other array, and neither of them is an object or a scalar. -/
theorem Detected.shape_iff {payload : Payload} (h : Detected document payload) :
    (payload.shape = .rows ↔ document.IsTable) ∧
    (payload.shape = .list ↔ (∃ items, document = .array items) ∧ ¬ document.IsTable) ∧
    (payload.shape = .map ↔ ∃ members, document = .object members) ∧
    (payload.shape = .text ↔ document.isScalar = true) := by
  cases h with
  | rows nonempty =>
    have table : (Json.array _).IsTable := Json.isTable_iff.2 ⟨_, nonempty, rfl⟩
    simp [shape, table, Json.isScalar]
  | list other => simp [shape, other, Json.isScalar]
  | map members => simp [shape, Json.IsTable, Json.isScalar]
  | text scalar sql =>
    cases document with
    | array items => cases scalar
    | object members => cases scalar
    | _ => simp [shape, Json.IsTable, Json.isScalar]

/-! ## What the payload holds -/

theorem rows_hold {items : List Json} {records : List Record} (h : (Json.array items).WellFormed)
    (payload : ofJson (.array items) = rows records) :
    List.Forall₂ (fun item record => record.Holds item) items records := by
  have detected := detected_ofJson (.array items)
  rw [payload] at detected
  cases detected with
  | rows nonempty =>
    rw [List.forall₂_map_left_iff, List.forall₂_map_right_iff, List.forall₂_same]
    exact fun members hmembers => Record.holds_ofMembers (h.item (List.mem_map_of_mem hmembers))

theorem map_holds {record : Record} (h : document.WellFormed) (payload : ofJson document = map record) :
    record.Holds document := by
  have detected := detected_ofJson document
  rw [payload] at detected
  cases detected with
  | map members => exact Record.holds_ofMembers h

theorem list_values {items : List Json} {values : List Value} (payload : ofJson (.array items) = list values) :
    values = items.map Value.ofJson := by
  have detected := detected_ofJson (.array items)
  rw [payload] at detected
  cases detected with
  | list other => rfl

end Payload

/-- A document becomes rows exactly if it is an array of objects with one at least, a list if it is any other array, a
map if it is an object, and a text otherwise. Rows are as many as the items of the array and in their order; a row and
a map have the members of their object for entries, one by one; a list has the items of its array for values. -/
theorem ofJson_detects_shape (document : Json) (h : document.WellFormed) :
    ((Payload.ofJson document).shape = .rows ↔
      ∃ items, document = .array items ∧ items ≠ [] ∧ ∀ item ∈ items, item.isObject = true) ∧
    ((Payload.ofJson document).shape = .list ↔
      (∃ items, document = .array items) ∧ ¬ (Payload.ofJson document).shape = .rows) ∧
    ((Payload.ofJson document).shape = .map ↔ ∃ members, document = .object members) ∧
    ((Payload.ofJson document).shape = .text ↔
      (∀ items, document ≠ .array items) ∧ ∀ members, document ≠ .object members) ∧
    (∀ items records, document = .array items → Payload.ofJson document = .rows records →
      List.Forall₂ (fun item record => record.Holds item) items records) ∧
    (∀ record, Payload.ofJson document = .map record → record.Holds document) ∧
    ∀ items values, document = .array items → Payload.ofJson document = .list values →
      values = items.map Value.ofJson := by
  obtain ⟨rows, list, map, text⟩ := (Payload.detected_ofJson document).shape_iff
  refine ⟨rows, ?_, map, ?_, ?_, fun record => Payload.map_holds h, ?_⟩
  · rw [list, rows]
  · rw [text, Json.isScalar_iff]
  · rintro items records rfl
    exact Payload.rows_hold h
  · rintro items values rfl
    exact Payload.list_values

/-- Two maps, the first of which gives a key twice. -/
def twoMaps : Datum :=
  .list [.map [(.text "zeta", .bool true), (.text "alpha", .null), (.text "zeta", .text "x")], .map []]

/-- What becomes of them. -/
def twoObjects : Json := .array [.object [("zeta", .string "x"), ("alpha", .null)], .object []]

theorem ofJson_detects_shape_twoObjects :
    twoObjects.WellFormed ∧ (Payload.ofJson twoObjects).shape = .rows ∧
    ∃ records, Payload.ofJson twoObjects = .rows records ∧
      List.Forall₂ (fun item record => Record.Holds record item)
        [.object [("zeta", .string "x"), ("alpha", .null)], .object []] records := by
  have wellFormed : twoObjects.WellFormed := Datum.wellFormed_of_toJson (d := twoMaps) rfl
  obtain ⟨shape, -, -, -, rows, -⟩ := ofJson_detects_shape twoObjects wellFormed
  have table : (Payload.ofJson twoObjects).shape = .rows := shape.2 ⟨_, rfl, by decide, by decide⟩
  exact ⟨wellFormed, table, _, rfl, rows _ _ rfl rfl⟩

end SqlBuilder

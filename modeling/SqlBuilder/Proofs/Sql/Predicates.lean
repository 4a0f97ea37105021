import SqlBuilder.Proofs.Text.Trimmed
import SqlBuilder.Sql.Predicate

/-!
# Conditions that say something

A condition is blank exactly if all of its pieces are.

* `Record.SaysSomething`, `Payload.SaysSomething` : records and payloads with a piece that is not blank.
* `Sql.hasSolid_condition` : the text of a condition, told from its pieces.
* `Sql.conditionClause?_eq_none_iff`, `Sql.conditionClause?_eq_some_iff` : when there is a clause, and which.
-/

namespace SqlBuilder

set_option autoImplicit false

/-- There is an entry for a column, or a fragment that is not blank. -/
def Record.SaysSomething (r : Record) : Prop :=
  ∃ entry ∈ r.entries, isOrdinalKey entry.1 = false ∨ Text.HasSolid entry.2.rawText

instance (r : Record) : Decidable r.SaysSomething :=
  List.decidableBEx (fun entry : String × Value => Record.isOrdinalKey entry.1 = false ∨ Text.HasSolid entry.2.rawText) r.entries

/-- There is a piece that is not blank. -/
def Payload.SaysSomething : Payload → Prop
  | text sql => Text.HasSolid sql
  | list items => ∃ value ∈ items, Text.HasSolid value.rawText
  | map record => record.SaysSomething
  | rows records => ∃ record ∈ records, record.SaysSomething

instance : (payload : Payload) → Decidable payload.SaysSomething
  | .text sql => inferInstanceAs (Decidable (Text.HasSolid sql))
  | .list items => List.decidableBEx (fun value : Value => Text.HasSolid value.rawText) items
  | .map record => inferInstanceAs (Decidable record.SaysSomething)
  | .rows records => List.decidableBEx Record.SaysSomething records

namespace Sql

/-! ## The text of a condition -/

/-- The sign of a comparison is not blank, whatever is compared. -/
theorem hasSolid_predicate {column : String} {value : Value} :
    Text.HasSolid (predicate column value) ↔ Record.isOrdinalKey column = false ∨ Text.HasSolid value.rawText := by
  rw [predicate]
  split
  · next ordinal => simp [ordinal]
  · next named =>
    have sign : Text.HasSolid " = " := ⟨'=', by decide, by decide⟩
    rw [Text.hasSolid_append, Text.hasSolid_append]
    exact iff_of_true (.inl (.inr sign)) (.inl (by simpa using named))

theorem hasSolid_predicates {r : Record} : Text.HasSolid (predicates r) ↔ r.SaysSomething := by
  rw [predicates, Text.hasSolid_unwords_map]
  simp only [hasSolid_predicate]
  rfl

theorem hasSolid_condition {payload : Payload} : Text.HasSolid (condition payload) ↔ payload.SaysSomething := by
  cases payload with
  | text sql => exact Iff.rfl
  | list items => exact Text.hasSolid_unwords_map
  | map record => exact hasSolid_predicates
  | rows records =>
    rw [condition, Text.hasSolid_unwords_map]
    simp only [hasSolid_predicates]
    rfl

/-! ## The clause -/

variable {payload : Payload}

theorem trim_condition_ne_empty (said : payload.SaysSomething) : Text.trim (condition payload) ≠ "" :=
  fun blank => Text.trim_eq_empty_iff.1 blank (hasSolid_condition.2 said)

theorem conditionClause?_eq_none_iff : conditionClause? payload = none ↔ ¬ payload.SaysSomething := by
  rw [← hasSolid_condition, ← Text.trim_eq_empty_iff, conditionClause?]
  split
  · next blank => exact iff_of_true rfl blank
  · next said => exact iff_of_false (fun h => by cases h) said

theorem conditionClause?_eq_some_iff {sql : String} :
    conditionClause? payload = some sql ↔
      payload.SaysSomething ∧ sql = "WHERE " ++ Text.trim (condition payload) := by
  constructor
  · intro h
    have said : payload.SaysSomething := by
      by_contra silent
      rw [conditionClause?_eq_none_iff.2 silent] at h
      cases h
    rw [conditionClause?] at h
    split at h
    · cases h
    · exact ⟨said, (Option.some.inj h).symm⟩
  · rintro ⟨said, rfl⟩
    exact if_neg (trim_condition_ne_empty said)

end Sql

end SqlBuilder

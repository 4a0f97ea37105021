import SqlBuilder.Proofs.Value.Decoding

/-!
# Documents as values

A document that becomes a value comes back as it was, but for one kind: a value has no integers past the signed
range, so such a number is kept as raw text and comes back as the text of its digits.

* `Json.isLarge` : an integer past the signed range. What stands inside of a document is no matter.
* `Json.asValue` : what comes back of a document; `Value.toJson_ofJson`.
* `Json.count_quote_asValue` : a number that comes back as a text has two double quotes more.
* `toJson_ofJson_iff` : documents that come back as they were, and arrays that are the list of their items.
-/

namespace SqlBuilder

set_option autoImplicit false

namespace Json

/-! ## Integers past the signed range -/

/-- An integer past the range of integers with a sign. -/
def isLarge : Json → Bool
  | number (.int n _ _) => 9223372036854775808 ≤ n
  | _ => false

/-- What comes back of a document that was a value: of a large integer, the text of its digits. -/
def asValue (document : Json) : Json := if document.isLarge then string document.compact else document

theorem asValue_of_large {document : Json} (h : document.isLarge = true) : document.asValue = string document.compact :=
  if_pos h

theorem asValue_of_not_large {document : Json} (h : document.isLarge = false) : document.asValue = document := by
  rw [asValue, h]
  rfl

theorem asValue_eq_self_iff {document : Json} : document.asValue = document ↔ document.isLarge = false := by
  constructor
  · intro same
    cases hlarge : document.isLarge with
    | false => rfl
    | true =>
      rw [asValue_of_large hlarge] at same
      rw [← same] at hlarge
      cases hlarge
  · exact asValue_of_not_large

end Json

namespace Value

theorem toJson_ofJson (document : Json) : (ofJson document).toJson = document.asValue := by
  cases document with
  | number n =>
    cases n with
    | int n lower upper =>
      by_cases hn : n < 9223372036854775808
      · have hlarge : (Json.number (.int n lower upper)).isLarge = false := decide_eq_false (by omega)
        have value : ofJson (.number (.int n lower upper)) = int (Int64.ofInt n) := if_pos hn
        have back : (Int64.ofInt n).toInt = n := Int64.toInt_ofInt_of_le lower hn
        rw [Json.asValue_of_not_large hlarge, value, toJson]
        simp only [back]
      · have hlarge : (Json.number (.int n lower upper)).isLarge = true := decide_eq_true (by omega)
        have value : ofJson (.number (.int n lower upper)) = raw (toString n) := if_neg hn
        rw [Json.asValue_of_large hlarge, value]
        rfl
    | float x finite =>
      have number : Number.ofFloat? x = some (.float x finite) := dif_pos finite
      rw [Json.asValue_of_not_large rfl, ofJson, ofNumber, toJson, Json.ofFloat, number]
  | _ => rfl

theorem ofList_ofJson (items : List Json) : ofList (items.map ofJson) = json (.array (items.map Json.asValue)) := by
  have items_eq : (items.map ofJson).map toJson = items.map Json.asValue := by
    rw [List.map_map]
    exact List.map_congr_left fun item _ => toJson_ofJson item
  rw [ofList, items_eq]

end Value

namespace Json

/-! ## Double quotes -/

theorem escapeChar_digit {c : Char} (h : c.isDigit = true) : escapeChar c = [c] := by
  have bound : ¬ c.toNat < 0x20 := by
    have lower : 48 ≤ c.toNat := (Char.isDigit_iff_toNat.1 h).1
    omega
  unfold escapeChar
  split
  case h_8 => rw [if_neg bound]
  all_goals cases h

theorem stringText_of_digits {s : String} (h : ∀ c ∈ s.toList, c.isDigit = true) : stringText s = "\"" ++ s ++ "\"" := by
  have plain : s.toList.flatMap escapeChar = s.toList.flatMap fun c => [c] := by
    rw [List.flatMap_def, List.flatMap_def, List.map_congr_left fun c hc => escapeChar_digit (h c hc)]
  rw [stringText, plain, List.flatMap_singleton', String.ofList_toList]

theorem isDigit_of_mem_compact {document : Json} (h : document.isLarge = true) {c : Char}
    (hc : c ∈ document.compact.toList) : c.isDigit = true := by
  cases document with
  | number n =>
    cases n with
    | int n lower upper =>
      have hn : 9223372036854775808 ≤ n := of_decide_eq_true h
      rw [compact, Number.text, Int.toString_eq_repr, Int.repr_eq_if, if_pos (by omega), Nat.toList_repr] at hc
      exact Nat.isDigit_of_mem_toDigits (by decide) (by decide) hc
    | float x finite => cases h
  | _ => cases h

theorem count_quote_asValue (document : Json) :
    document.asValue.compact.toList.count '"' =
      document.compact.toList.count '"' + if document.isLarge then 2 else 0 := by
  cases h : document.isLarge with
  | false =>
    rw [asValue_of_not_large h]
    rfl
  | true =>
    rw [asValue_of_large h, compact, stringText_of_digits fun c hc => isDigit_of_mem_compact h hc]
    simp [String.toList_append, List.count_append]

theorem count_quote_items (items : List Json) :
    (",".intercalate (compactItems (items.map asValue))).toList.count '"' =
      (",".intercalate (compactItems items)).toList.count '"' + 2 * items.countP isLarge := by
  induction items with
  | nil => rfl
  | cons item items ih =>
    rw [List.map_cons, compactItems, compactItems, Text.count_intercalate_cons (by decide),
      Text.count_intercalate_cons (by decide), count_quote_asValue, ih, List.countP_cons]
    split <;> omega

/-- The text of an array tells whether an item comes back as another one. -/
theorem compact_map_asValue_iff (items : List Json) :
    (array (items.map asValue)).compact = (array items).compact ↔ ∀ item ∈ items, item.isLarge = false := by
  constructor
  · intro same
    -- Each item that comes back as a text has two double quotes more, and no item has fewer.
    rw [compact, compact] at same
    have counts := congrArg (fun s => s.toList.count '"') same
    simp only [String.toList_append, List.count_append, count_quote_items] at counts
    have none_large : items.countP isLarge = 0 := by omega
    rw [List.countP_eq_zero] at none_large
    intro item hitem
    simpa using none_large item hitem
  · intro small
    rw [List.map_congr_left fun item hitem => asValue_of_not_large (small item hitem), List.map_id']

end Json

/-! ## The round trip -/

/-- A document comes back from a value exactly if it is not a large integer, which comes back as the text of its digits.
So the list of the values of documents is the array of the documents, with the same literal and the same raw text,
exactly if there is no large integer among them. -/
theorem toJson_ofJson_iff (document : Json) (items : List Json) :
    (Value.ofJson document).toJson = (if document.isLarge then .string document.compact else document) ∧
    ((Value.ofJson document).toJson = document ↔ document.isLarge = false) ∧
    Value.ofList (items.map Value.ofJson) = .json (.array (items.map Json.asValue)) ∧
    (Value.ofList (items.map Value.ofJson) = Value.ofJson (.array items) ↔ ∀ item ∈ items, item.isLarge = false) ∧
    ((Value.ofList (items.map Value.ofJson)).literal = (Value.ofJson (.array items)).literal ↔
      ∀ item ∈ items, item.isLarge = false) ∧
    ((Value.ofList (items.map Value.ofJson)).rawText = (Value.ofJson (.array items)).rawText ↔
      ∀ item ∈ items, item.isLarge = false) := by
  have array : Value.ofJson (.array items) = .json (.array items) := rfl
  have texts := Json.compact_map_asValue_iff items
  rw [Value.toJson_ofJson, Value.ofList_ofJson, array]
  refine ⟨rfl, Json.asValue_eq_self_iff, rfl, ⟨?_, ?_⟩, ⟨?_, ?_⟩, texts⟩
  · intro same
    exact texts.1 (congrArg Value.rawText same)
  · intro small
    rw [List.map_congr_left fun item hitem => Json.asValue_of_not_large (small item hitem), List.map_id']
  · intro same
    exact texts.1 (Value.literal_json_inj.1 same)
  · intro small
    rw [Value.literal_json, Value.literal_json, texts.2 small]

/-- The first integer past the signed range. -/
def pastSigned : Json := .number (.int 9223372036854775808 (by decide) (by decide))

/-- The ends of the signed range, and an integer past it inside of an item. -/
def boundaryItems : List Json :=
  [.number (.int 9223372036854775807 (by decide) (by decide)),
   .number (.int (-9223372036854775808) (by decide) (by decide)), .array [pastSigned]]

theorem toJson_ofJson_boundary :
    Value.ofList (boundaryItems.map Value.ofJson) = Value.ofJson (.array boundaryItems) ∧
    (Value.ofList (boundaryItems.map Value.ofJson)).literal =
      "'[9223372036854775807,-9223372036854775808,[9223372036854775808]]'" := by
  obtain ⟨-, -, -, same, literals, -⟩ := toJson_ofJson_iff .null boundaryItems
  have small : ∀ item ∈ boundaryItems, item.isLarge = false := by decide
  refine ⟨same.2 small, ?_⟩
  rw [literals.2 small]
  decide +kernel

/-- An integer past the signed range comes back as a text, so it is a number in an array and a text in the list of the
items of the array. -/
theorem ofList_quotes_pastSigned :
    (Value.ofJson pastSigned).toJson = .string "9223372036854775808" ∧
    (Value.ofJson (.array [pastSigned])).literal = "'[9223372036854775808]'" ∧
    (Value.ofList [Value.ofJson pastSigned]).literal = "'[\"9223372036854775808\"]'" ∧
    (¬ ∀ document, (Value.ofJson document).toJson = document) ∧
    ¬ ∀ items : List Json, Value.ofList (items.map Value.ofJson) = Value.ofJson (.array items) := by
  have digits : (Value.ofJson pastSigned).toJson = .string "9223372036854775808" := rfl
  have array : (Value.ofJson (.array [pastSigned])).literal = "'[9223372036854775808]'" := by decide +kernel
  have list : (Value.ofList [Value.ofJson pastSigned]).literal = "'[\"9223372036854775808\"]'" := by decide +kernel
  refine ⟨digits, array, list, ?_, ?_⟩
  · intro same
    have back := same pastSigned
    rw [digits] at back
    cases back
  · intro same
    have literals := congrArg Value.literal (same [pastSigned])
    rw [array, List.map_singleton, list] at literals
    exact absurd literals (by decide)

end SqlBuilder

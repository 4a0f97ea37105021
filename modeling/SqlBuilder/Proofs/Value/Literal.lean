import SqlBuilder.Proofs.Text.Literals
import SqlBuilder.Value

/-!
# Literals of values

The literal of a value has one of two forms, unless the value is raw SQL.

* `Value.literal_of_isQuoted` : a text and a document stand between quotes, and what they hold is sealed in.
* `Value.not_mark_of_mem_literal` : anything else is written without quotes, backslashes, commas and brackets;
  for numbers this holds of every character that a number is written with.
* `Value.count_quote_literal` : the quotes of a literal are those of the raw text and the two around it.
* `Text.count_intercalate_cons` : the characters of a list of texts with commas between.
-/

namespace SqlBuilder

set_option autoImplicit false

namespace Value

/-- Whether the value is SQL that is written as it is. -/
def isRaw : Value → Bool
  | raw _ => true
  | _ => false

/-- Whether the literal of the value stands between quotes. -/
def isQuoted : Value → Bool
  | text _ | json _ => true
  | _ => false

/-- The literal of a text or a document: a quote, characters that stay inside, a quote. -/
theorem literal_of_isQuoted {v : Value} (h : v.isQuoted = true) :
    ∃ body, Text.Sealed body ∧ v.literal.toList = '\'' :: (body ++ ['\'']) := by
  cases v with
  | text s => exact ⟨_, Text.sealed_textBody s, Text.toList_quote _⟩
  | json document => exact ⟨_, Text.sealed_jsonBody document.compact, Text.toList_quote _⟩
  | _ => cases h

/-! ## Literals without quotes -/

/-- The characters that have a meaning between the literals of a list of tuples. -/
def marks : List Char := ['\'', '\\', ',', '(', ')']

def isMarkFree (s : String) : Bool := s.toList.all fun c => c ∉ marks

theorem not_mark_of_isMarkFree {s : String} (hs : isMarkFree s = true) {c : Char} (h : c ∈ s.toList) : c ∉ marks :=
  of_decide_eq_true (List.all_eq_true.1 hs c h)

theorem not_mark_of_isNumeralChar {c : Char} (h : Decimal.isNumeralChar c = true) : c ∉ marks := by
  have numeral : marks.all (fun m => !Decimal.isNumeralChar m) = true := by decide
  intro hc
  have hnot := List.all_eq_true.1 numeral c hc
  rw [h] at hnot
  cases hnot

theorem not_mark_of_mem_nat {n : Nat} {c : Char} (h : c ∈ (toString n).toList) : c ∉ marks :=
  not_mark_of_isNumeralChar (Decimal.isNumeralChar_of_mem_digits h)

theorem not_mark_of_mem_int {n : Int} {c : Char} (h : c ∈ (toString n).toList) : c ∉ marks := by
  rw [Int.toString_eq_repr, Int.repr_eq_if] at h
  split at h
  · exact not_mark_of_mem_nat h
  · rw [String.toList_append, List.mem_append] at h
    obtain h | h := h
    · rw [List.mem_singleton.1 h]
      decide
    · exact not_mark_of_mem_nat h

theorem not_mark_of_mem_floatText {x : Float} {c : Char} (h : c ∈ (floatText x).toList) : c ∉ marks := by
  unfold floatText at h
  split at h
  · exact not_mark_of_isNumeralChar (Decimal.isNumeralChar_of_mem_write _ _ _ h)
  · exact not_mark_of_isMarkFree (by decide) h

/-- What is written neither between quotes nor raw holds none of the marks. -/
theorem not_mark_of_mem_literal {v : Value} (hquoted : v.isQuoted = false) (hraw : v.isRaw = false) {c : Char}
    (h : c ∈ v.literal.toList) : c ∉ marks := by
  cases v with
  | null => exact not_mark_of_isMarkFree (by decide) h
  | bool b => cases b <;> exact not_mark_of_isMarkFree (by decide) h
  | int n => exact not_mark_of_mem_int h
  | float x => exact not_mark_of_mem_floatText h
  | text s => cases hquoted
  | json document => cases hquoted
  | raw sql => cases hraw

/-! ## Literals and raw texts -/

theorem literal_eq_rawText {v : Value} (h : v.isQuoted = false) : v.literal = v.rawText := by
  cases v with
  | text s => cases h
  | json document => cases h
  | _ => rfl

theorem count_quote_flatMap {write : Char → List Char} (h : ∀ c, (write c).count '\'' = [c].count '\'')
    (cs : List Char) : (cs.flatMap write).count '\'' = cs.count '\'' := by
  induction cs with
  | nil => rfl
  | cons c cs ih => rw [List.flatMap_cons, List.count_append, h, ih, ← List.count_append, List.singleton_append]

theorem count_quote_textChar (c : Char) : (Text.textChar c).count '\'' = [c].count '\'' := by
  unfold Text.textChar
  split <;> rfl

theorem count_quote_jsonChar (c : Char) : (Text.jsonChar c).count '\'' = [c].count '\'' := by
  unfold Text.jsonChar
  split <;> rfl

theorem count_quote_literal (v : Value) :
    v.literal.toList.count '\'' = v.rawText.toList.count '\'' + if v.isQuoted then 2 else 0 := by
  have between_quotes (body : String) : (Text.quote body).toList.count '\'' = body.toList.count '\'' + 2 := by
    simp [Text.quote, String.toList_append, List.count_append]
  cases v with
  | text s =>
    have hbody : (Text.textBody s).toList.count '\'' = s.toList.count '\'' := by
      rw [Text.textBody, String.toList_ofList, count_quote_flatMap count_quote_textChar]
    rw [literal, between_quotes, hbody]
    rfl
  | json document =>
    have hbody : (Text.jsonBody document.compact).toList.count '\'' = document.compact.toList.count '\'' := by
      rw [Text.jsonBody, String.toList_ofList, count_quote_flatMap count_quote_jsonChar]
    rw [literal, between_quotes, hbody]
    rfl
  | _ => rfl

end Value

/-! ## Lists of texts -/

theorem Text.count_intercalate_cons {c : Char} (hc : c ≠ ',') (x : String) (xs : List String) :
    (",".intercalate (x :: xs)).toList.count c = x.toList.count c + (",".intercalate xs).toList.count c := by
  cases xs with
  | nil =>
    rw [String.intercalate_singleton]
    rfl
  | cons y ys =>
    have comma : ",".toList.count c = 0 := List.count_eq_zero.2 (by simpa using hc)
    rw [String.intercalate_cons_cons, String.toList_append, String.toList_append, List.count_append, List.count_append,
      comma, Nat.add_zero]

end SqlBuilder

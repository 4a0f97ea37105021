import SqlBuilder.Clause.Name
import SqlBuilder.Proofs.KeyedList.History

/-!
# Words and payloads of clauses

Which name a word has, in upper or lower case, and which payloads are one text.

* `Clause.Name.Spells`, `Clause.Name.ofWord?_eq_some_iff` : words of verbs and of kinds of clause. No word is both.
* `Payload.Single`, `Payload.singleText?_eq_some_iff` : a text, or one value that is not a document.
-/

namespace SqlBuilder

set_option autoImplicit false

/-! ## Words -/

theorem Verb.mem_all (v : Verb) : v ∈ all := by cases v <;> decide

theorem Verb.ofWord?_eq_some_iff {word : String} {v : Verb} : ofWord? word = some v ↔ v.word = word := by
  have nodup : (all.map Verb.word).Nodup := by decide
  rw [ofWord?, find?_eq_some_iff_of_nodup nodup, and_iff_right v.mem_all]

namespace Clause.Name

theorem kind?_eq_some_iff {name : String} {k : Kind} :
    kind? name = some k ↔ k ∈ namedKinds ∧ k.word = lowerCase name := by
  have nodup : (namedKinds.map Kind.word).Nodup := by decide
  rw [kind?, find?_eq_some_iff_of_nodup nodup]

/-- A word, in upper or lower case, for a name. -/
def Spells (name : String) : Clause.Name → Prop
  | verb v => v.word = lowerCase name
  | kind k => k ∈ namedKinds ∧ k.word = lowerCase name

theorem ofWord?_eq_some_iff {name : String} {n : Clause.Name} : ofWord? name = some n ↔ Spells name n := by
  -- Verbs are looked up first, and would hide a kind that had the word of one.
  have foreign : ∀ v : Verb, ∀ k : Kind, v.word ≠ k.word := by
    intro v k
    cases v <;> cases k <;> decide
  cases hverb : verb? name with
  | some v =>
    have hword : v.word = lowerCase name := Verb.ofWord?_eq_some_iff.1 hverb
    cases n with
    | verb w => rw [ofWord?, hverb, Spells, ← Verb.ofWord?_eq_some_iff, ← verb?, hverb]; simp
    | kind k =>
      rw [ofWord?, hverb, Spells, ← hword]
      simp [(foreign v k).symm]
  | none =>
    cases n with
    | verb w =>
      rw [Spells, ← Verb.ofWord?_eq_some_iff, ← verb?, hverb, ofWord?, hverb]
      simp
    | kind k =>
      rw [Spells, ← kind?_eq_some_iff, ofWord?, hverb]
      simp

end Clause.Name

/-! ## Payloads of one text -/

/-- A text, or one value that is not a document. -/
inductive Payload.Single : Payload → String → Prop
  | text (sql : String) : Single (.text sql) sql
  | value (v : Value) (plain : ∀ document, v ≠ .json document) : Single (.list [v]) v.rawText

theorem Payload.singleText?_eq_some_iff {payload : Payload} {text : String} :
    payload.singleText? = some text ↔ payload.Single text := by
  constructor
  · intro h
    unfold singleText? at h
    split at h
    · cases h; exact .text _
    · cases h
    · cases h; exact .value _ (by assumption)
    · cases h
  · rintro (_ | ⟨v, plain⟩)
    · rfl
    · cases v with
      | json document => exact absurd rfl (plain document)
      | _ => rfl

end SqlBuilder

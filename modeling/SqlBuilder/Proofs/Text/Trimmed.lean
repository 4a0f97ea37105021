import SqlBuilder.Proofs.Text.Alike
import SqlBuilder.Proofs.Text.Solid

/-!
# Trimmed text

Trimming leaves a text that neither begins nor ends with a blank character, and leaves such a text as it is.

* `Trimmed` : characters without blank ones at their ends.
* `trimmed_trim`, `Trimmed.trim_eq` : what trimming leaves, and what it leaves as it is.
* `trim_eq_empty_iff` : nothing is left of a text that is blank, and of no other.
* `Trimmed.append` : trimmed text behind trimmed text, whatever is between.
* `Padded` : characters with blank ones around them; `trimBlanks_eq_iff` : what trimming takes away.
-/

namespace SqlBuilder.Text

set_option autoImplicit false

/-- Characters that neither begin nor end with a blank one. -/
structure Trimmed (cs : List Char) : Prop where
  first : ∀ c ∈ cs.head?, isBlank c = false
  last : ∀ c ∈ cs.getLast?, isBlank c = false

theorem not_isBlank_of_mem_head?_dropWhile {cs : List Char} {c : Char} (h : c ∈ (cs.dropWhile isBlank).head?) :
    isBlank c = false := by
  have stops := List.head?_dropWhile_not isBlank cs
  rw [Option.mem_def.1 h] at stops
  exact stops

theorem trimmed_trimBlanks (cs : List Char) : Trimmed (trimBlanks cs) := by
  rw [trimBlanks_eq]
  constructor
  · intro c hc
    -- What is left at the front is a prefix of what was there, so it begins with the same character.
    obtain ⟨rest, hrest⟩ := List.rdropWhile_prefix isBlank (cs.dropWhile isBlank)
    have front : c ∈ (cs.dropWhile isBlank).head? := by
      rw [← hrest, List.head?_append, Option.mem_def.1 hc]
      rfl
    exact not_isBlank_of_mem_head?_dropWhile front
  · intro c hc
    obtain ⟨hne, rfl⟩ := List.mem_getLast?_eq_getLast hc
    simpa using List.rdropWhile_last_not isBlank (cs.dropWhile isBlank) hne

theorem toList_trim (s : String) : (trim s).toList = trimBlanks s.toList := String.toList_ofList

theorem trimmed_trim (s : String) : Trimmed (trim s).toList := by
  rw [toList_trim]
  exact trimmed_trimBlanks s.toList

theorem trim_eq_empty_iff {s : String} : trim s = "" ↔ ¬ HasSolid s := by
  constructor
  · intro htrim
    rw [hasSolid_iff, ← solid_trim, htrim]
    exact fun hne => hne rfl
  · intro blank
    have all : ∀ c ∈ s.toList, isBlank c = true := by
      intro c hc
      by_contra hsolid
      exact blank ⟨c, hc, by simpa using hsolid⟩
    rw [trim, trimBlanks, List.dropWhile_eq_nil_iff.2 all]
    rfl

namespace Trimmed

variable {xs ys : List Char}

theorem trimBlanks_eq (h : Trimmed xs) : trimBlanks xs = xs := by
  have front : xs.dropWhile isBlank = xs := by
    rw [List.dropWhile_eq_self_iff]
    intro hne
    simp [h.first _ (List.head?_eq_getElem? ▸ List.getElem?_eq_getElem hne)]
  rw [Text.trimBlanks_eq, front, List.rdropWhile_eq_self_iff]
  intro hne
  simp [h.last _ (List.getLast?_eq_some_getLast hne)]

theorem trim_eq {s : String} (h : Trimmed s.toList) : trim s = s := by
  rw [trim, h.trimBlanks_eq, String.ofList_toList]

theorem append (hx : Trimmed xs) (hy : Trimmed ys) (hxs : xs ≠ []) (hys : ys ≠ []) (between : List Char) :
    Trimmed (xs ++ (between ++ ys)) := by
  constructor
  · rw [List.head?_append_of_ne_nil _ hxs]
    exact hx.first
  · rw [← List.append_assoc, List.getLast?_append_of_ne_nil _ hys]
    exact hy.last

end Trimmed

/-! ## What is taken away -/

/-- The characters, with nothing but blank ones before and after them. -/
def Padded (core cs : List Char) : Prop :=
  ∃ before after, cs = before ++ (core ++ after) ∧ (∀ c ∈ before, isBlank c = true) ∧ ∀ c ∈ after, isBlank c = true

theorem padded_trimBlanks (cs : List Char) : Padded (trimBlanks cs) cs := by
  refine ⟨cs.takeWhile isBlank, (cs.dropWhile isBlank).rtakeWhile isBlank, ?_, ?_, ?_⟩
  · rw [trimBlanks_eq, List.rdropWhile_append_rtakeWhile, List.takeWhile_append_dropWhile]
  · exact fun c hc => List.mem_takeWhile_imp hc
  · exact fun c hc => List.mem_rtakeWhile_imp hc

theorem Padded.trimBlanks_eq {core cs : List Char} (h : Padded core cs) : trimBlanks cs = trimBlanks core := by
  obtain ⟨before, after, rfl, hbefore, hafter⟩ := h
  have behind : after.rdropWhile isBlank = [] := List.rdropWhile_eq_nil_iff.2 hafter
  rw [Text.trimBlanks_eq, Text.trimBlanks_eq, List.dropWhile_append_of_pos hbefore, List.dropWhile_append]
  split
  · rename_i none
    rw [List.dropWhile_eq_nil_iff.2 hafter, List.isEmpty_iff.1 none]
  · rw [rdropWhile_append, if_pos behind]

/-- Trimming takes blank characters away from both ends until there is none. -/
theorem trimBlanks_eq_iff {core cs : List Char} : trimBlanks cs = core ↔ Trimmed core ∧ Padded core cs := by
  constructor
  · rintro rfl
    exact ⟨trimmed_trimBlanks cs, padded_trimBlanks cs⟩
  · rintro ⟨trimmed, padded⟩
    rw [padded.trimBlanks_eq, trimmed.trimBlanks_eq]

end SqlBuilder.Text

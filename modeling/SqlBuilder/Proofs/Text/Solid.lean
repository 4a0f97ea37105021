import SqlBuilder.Text.Blank

/-!
# Characters that are not blank

Trimming takes blank characters away and nothing else, so what is solid in a text stays as it is.

* `solid`, `solid_trim` : the characters that are not blank, which trimming keeps.
* `HasSolid` : a text with such a character; `hasSolid_append`, `hasSolid_unwords` : texts that are put together.
-/

namespace SqlBuilder.Text

set_option autoImplicit false

/-- The characters that are not blank, in their order. -/
def solid (s : String) : List Char := s.toList.filter fun c => !isBlank c

theorem solid_append (s t : String) : solid (s ++ t) = solid s ++ solid t := by
  unfold solid
  rw [String.toList_append, List.filter_append]

theorem filter_dropWhile_isBlank (cs : List Char) :
    ((cs.dropWhile isBlank).filter fun c => !isBlank c) = cs.filter fun c => !isBlank c := by
  induction cs with
  | nil => rfl
  | cons c cs ih =>
    cases hc : isBlank c with
    | true => rw [List.dropWhile_cons_of_pos hc, ih, List.filter_cons_of_neg (by simp [hc])]
    | false => rw [List.dropWhile_cons_of_neg (by simp [hc])]

theorem solid_trim (s : String) : solid (trim s) = solid s := by
  unfold solid trim trimBlanks
  rw [String.toList_ofList, List.filter_reverse, filter_dropWhile_isBlank, List.filter_reverse, List.reverse_reverse,
    filter_dropWhile_isBlank]

theorem count_solid {c : Char} (hc : isBlank c = false) (s : String) : (solid s).count c = s.toList.count c :=
  List.count_filter (by simp [hc])

/-! ## Texts that are not blank -/

/-- The text has a character that is not blank. -/
def HasSolid (s : String) : Prop := ∃ c ∈ s.toList, isBlank c = false

instance (s : String) : Decidable (HasSolid s) := List.decidableBEx (fun c => isBlank c = false) s.toList

theorem hasSolid_iff {s : String} : HasSolid s ↔ solid s ≠ [] := by
  rw [solid, Ne, List.filter_eq_nil_iff, HasSolid]
  simp

theorem not_hasSolid_empty : ¬ HasSolid "" := by
  rintro ⟨c, hc, -⟩
  cases hc

theorem not_hasSolid_space : ¬ HasSolid " " := by
  rintro ⟨c, hc, hsolid⟩
  rw [List.mem_singleton.1 hc] at hsolid
  exact absurd hsolid (by decide)

theorem hasSolid_append {s t : String} : HasSolid (s ++ t) ↔ HasSolid s ∨ HasSolid t := by
  simp only [HasSolid, String.toList_append, List.mem_append, or_and_right, exists_or]

theorem hasSolid_unwords {l : List String} : HasSolid (" ".intercalate l) ↔ ∃ s ∈ l, HasSolid s := by
  induction l with
  | nil => exact iff_of_false not_hasSolid_empty (by simp)
  | cons x l ih =>
    cases l with
    | nil => simp
    | cons y l =>
      rw [String.intercalate_cons_cons, hasSolid_append, hasSolid_append, or_iff_left not_hasSolid_space, ih]
      simp

theorem hasSolid_unwords_map {α : Type} {f : α → String} {l : List α} :
    HasSolid (" ".intercalate (l.map f)) ↔ ∃ a ∈ l, HasSolid (f a) := by
  rw [hasSolid_unwords]
  constructor
  · rintro ⟨_, hmem, hsolid⟩
    obtain ⟨a, ha, rfl⟩ := List.mem_map.1 hmem
    exact ⟨a, ha, hsolid⟩
  · rintro ⟨a, ha, hsolid⟩
    exact ⟨f a, List.mem_map_of_mem ha, hsolid⟩

end SqlBuilder.Text

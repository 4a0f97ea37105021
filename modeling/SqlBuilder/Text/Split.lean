/-!
# Splitting at a mark

* `after?` : what stands after a mark at the start.
* `splitAtLast?` : what stands before and after the last occurrence of a mark; nothing else is left out
  (`eq_append_of_splitAtLast?`).
* `lastWord` : what stands after the last space.
-/

namespace SqlBuilder.Text

set_option autoImplicit false

/-- The characters after a mark that they begin with. -/
def after? : List Char → List Char → Option (List Char)
  | [], cs => some cs
  | _ :: _, [] => none
  | m :: mark, c :: cs => if m = c then after? mark cs else none

theorem after?_eq_some_iff {mark cs rest : List Char} : after? mark cs = some rest ↔ cs = mark ++ rest := by
  fun_induction after? mark cs with
  | case1 cs => simp
  | case2 m mark => simp
  | case3 mark c cs ih => simp [ih]
  | case4 m mark c cs h => simp [Ne.symm h]

/-- The characters before and after the last occurrence of a mark. -/
def splitAtLast? (mark : List Char) : List Char → Option (List Char × List Char)
  | [] => (after? mark []).map fun rest => ([], rest)
  | c :: cs =>
    match splitAtLast? mark cs with
    | some (before, rest) => some (c :: before, rest)
    | none => (after? mark (c :: cs)).map fun rest => ([], rest)

/-- The two parts with the mark between them are the whole. -/
theorem eq_append_of_splitAtLast? {mark cs before rest : List Char}
    (h : splitAtLast? mark cs = some (before, rest)) : cs = before ++ (mark ++ rest) := by
  induction cs generalizing before with
  | nil => simp_all [splitAtLast?, after?_eq_some_iff]
  | cons c cs ih =>
    rw [splitAtLast?] at h
    split at h
    case h_1 before' rest' found =>
      simp only [Option.some.injEq, Prod.mk.injEq] at h
      obtain ⟨rfl, rfl⟩ := h
      rw [ih found, List.cons_append]
    case h_2 =>
      simp only [Option.map_eq_some_iff, Prod.mk.injEq] at h
      obtain ⟨_, found, rfl, rfl⟩ := h
      rw [after?_eq_some_iff.1 found, List.nil_append]

/-- The characters after the last space, or all of them if there is none. -/
def lastWord (cs : List Char) : List Char :=
  match splitAtLast? [' '] cs with
  | some (_, rest) => rest
  | none => cs

end SqlBuilder.Text

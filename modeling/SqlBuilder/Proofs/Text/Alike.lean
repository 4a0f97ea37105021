import Mathlib.Data.List.DropRight
import SqlBuilder.Proofs.Text.Literals
import SqlBuilder.Text.Blank

/-!
# Texts that differ inside their literals

* `Alike s t` : two texts whose literals are closed and which are the same outside of them.
* `SameOutline s t` : texts that are alike up to some point and the same from there on, where literals may
  stay open.

Both are kept by what is done when a statement is put together: putting text after text, looking at the first
and the last character, and dropping blank characters at the ends. Texts of the same outline have the same
skeleton (`SameOutline.skeletonFrom_eq`).
-/

namespace SqlBuilder.Text

set_option autoImplicit false

/-- Texts that are the same but for what stands in their literals. -/
inductive Alike : List Char → List Char → Prop
  | nil : Alike [] []
  | char {c : Char} {s t : List Char} (hc : c ≠ '\'') (rest : Alike s t) : Alike (c :: s) (c :: t)
  | literal {b b' s t : List Char} (hb : Sealed b) (hb' : Sealed b') (rest : Alike s t) :
      Alike ('\'' :: (b ++ '\'' :: s)) ('\'' :: (b' ++ '\'' :: t))

namespace Alike

variable {s t u v : List Char}

theorem refl (h : '\'' ∉ s) : Alike s s := by
  induction s with
  | nil => exact .nil
  | cons c s ih =>
    rw [List.mem_cons, not_or] at h
    exact .char (Ne.symm h.1) (ih h.2)

theorem symm (h : Alike s t) : Alike t s := by
  induction h with
  | nil => exact .nil
  | char hc _ ih => exact .char hc ih
  | literal hb hb' _ ih => exact .literal hb' hb ih

theorem append (h : Alike s t) (h' : Alike u v) : Alike (s ++ u) (t ++ v) := by
  induction h with
  | nil => exact h'
  | char hc _ ih => exact .char hc ih
  | literal hb hb' _ ih =>
    have step := Alike.literal hb hb' ih
    simpa only [List.cons_append, List.append_assoc] using step

/-! ## What a reader sees -/

theorem after_eq (h : Alike s t) : Mode.after .bare s = .bare := by
  induction h with
  | nil => rfl
  | @char c s t hc _ ih =>
    rw [Mode.after, List.foldl_cons, Mode.next_bare hc]
    exact ih
  | @literal b b' s t hb _ _ ih => rw [after_literal hb s, ih]

theorem skeletonFrom_eq (h : Alike s t) : skeletonFrom .bare s = skeletonFrom .bare t := by
  induction h with
  | nil => rfl
  | @char c s t hc _ ih =>
    rw [skeletonFrom, skeletonFrom, Mode.next_bare hc, ih]
  | @literal b b' s t hb hb' _ ih => rw [skeletonFrom_literal hb s, skeletonFrom_literal hb' t, ih]

theorem literalsFrom_eq (h : Alike s t) : literalsFrom .bare s = literalsFrom .bare t := by
  induction h with
  | nil => rfl
  | @char c s t hc _ ih =>
    rw [literalsFrom, literalsFrom, Mode.next_bare hc, ih]
  | @literal b b' s t hb hb' _ ih => rw [literalsFrom_literal hb s, literalsFrom_literal hb' t, ih]

/-! ## The ends -/

theorem eq_nil_iff (h : Alike s t) : s = [] ↔ t = [] := by
  cases h <;> simp

theorem head?_eq (h : Alike s t) : s.head? = t.head? := by
  cases h <;> rfl

theorem getLast?_eq (h : Alike s t) : s.getLast? = t.getLast? := by
  induction h with
  | nil => rfl
  | char _ _ ih => rw [List.getLast?_cons, List.getLast?_cons, ih]
  | literal _ _ _ ih =>
    rw [List.getLast?_cons, List.getLast?_cons, List.getLast?_append, List.getLast?_append, List.getLast?_cons,
      List.getLast?_cons, ih]
    rfl

end Alike

/-! ## Dropping at the ends -/

section Drop
variable {α : Type} {p : α → Bool}

theorem rdropWhile_append (xs ys : List α) :
    (xs ++ ys).rdropWhile p = if ys.rdropWhile p = [] then xs.rdropWhile p else xs ++ ys.rdropWhile p := by
  have hnil : ((ys.reverse.dropWhile p).isEmpty = true) ↔ ys.rdropWhile p = [] := by
    rw [List.isEmpty_iff, List.rdropWhile, List.reverse_eq_nil_iff]
  by_cases h : ys.rdropWhile p = []
  · rw [if_pos h, List.rdropWhile, List.reverse_append, List.dropWhile_append, if_pos (hnil.2 h)]
    rfl
  · rw [if_neg h, List.rdropWhile, List.reverse_append, List.dropWhile_append, if_neg (fun e => h (hnil.1 e)),
      List.reverse_append, List.reverse_reverse]
    rfl

/-- Dropping from the end stops at a character that stays. -/
theorem rdropWhile_append_cons {xs : List α} {a : α} (ys : List α) (ha : p a = false) :
    (xs ++ a :: ys).rdropWhile p = xs ++ a :: ys.rdropWhile p := by
  have hstop : (xs ++ [a]).rdropWhile p = xs ++ [a] := List.rdropWhile_concat_neg p xs a (by simp [ha])
  rw [List.append_cons xs a ys, rdropWhile_append, hstop, List.append_cons xs a (ys.rdropWhile p)]
  split
  case isTrue h => rw [h, List.append_nil]
  case isFalse => rfl

theorem trimBlanks_eq (cs : List Char) : trimBlanks cs = (cs.dropWhile isBlank).rdropWhile isBlank := rfl

theorem isBlank_quote : isBlank '\'' = false := by decide

end Drop

namespace Alike

variable {s t : List Char}

theorem dropWhile (h : Alike s t) : Alike (s.dropWhile isBlank) (t.dropWhile isBlank) := by
  induction h with
  | nil => exact .nil
  | @char c s t hc rest ih =>
    cases hb : isBlank c with
    | true => rwa [List.dropWhile_cons_of_pos hb, List.dropWhile_cons_of_pos hb]
    | false =>
      rw [List.dropWhile_cons_of_neg (by simp [hb]), List.dropWhile_cons_of_neg (by simp [hb])]
      exact .char hc rest
  | literal hb hb' rest _ =>
    rw [List.dropWhile_cons_of_neg (by simp [isBlank_quote]), List.dropWhile_cons_of_neg (by simp [isBlank_quote])]
    exact .literal hb hb' rest

theorem rdropWhile (h : Alike s t) : Alike (s.rdropWhile isBlank) (t.rdropWhile isBlank) := by
  induction h with
  | nil => exact .nil
  | @char c s t hc _ ih =>
    -- Whether `c` is reached depends on the rests alone, and these are dropped whole or not at all together.
    rw [← List.singleton_append, ← List.singleton_append (l := t), rdropWhile_append, rdropWhile_append]
    by_cases hs : s.rdropWhile isBlank = []
    · have hsame : Alike ([c].rdropWhile isBlank) ([c].rdropWhile isBlank) := by
        rw [List.rdropWhile_singleton]
        split
        · exact .nil
        · exact .char hc .nil
      rwa [if_pos hs, if_pos (ih.eq_nil_iff.1 hs)]
    · rw [if_neg hs, if_neg (fun e => hs (ih.eq_nil_iff.2 e))]
      exact .char hc ih
  | @literal b b' s t hb hb' _ ih =>
    rw [← List.cons_append, ← List.cons_append, rdropWhile_append_cons s isBlank_quote,
      rdropWhile_append_cons t isBlank_quote]
    exact .literal hb hb' ih

end Alike

/-! ## Texts with a common rest -/

/-- Texts that are alike up to some point and the same from there on. -/
inductive SameOutline : List Char → List Char → Prop
  | intro {s t : List Char} (alike : Alike s t) (rest : List Char) : SameOutline (s ++ rest) (t ++ rest)

namespace SameOutline

variable {s t : List Char}

theorem refl (s : List Char) : SameOutline s s := .intro .nil s

theorem of_alike (h : Alike s t) : SameOutline s t := by
  simpa only [List.append_nil] using SameOutline.intro h []

theorem append (h : SameOutline s t) (u : List Char) : SameOutline (s ++ u) (t ++ u) := by
  cases h with
  | intro alike rest =>
    rw [List.append_assoc, List.append_assoc]
    exact .intro alike (rest ++ u)

theorem skeletonFrom_eq (h : SameOutline s t) : skeletonFrom .bare s = skeletonFrom .bare t := by
  cases h with
  | intro alike rest =>
    rw [skeletonFrom_append, skeletonFrom_append, alike.after_eq, alike.symm.after_eq, alike.skeletonFrom_eq]

theorem eq_nil_iff (h : SameOutline s t) : s = [] ↔ t = [] := by
  cases h with
  | intro alike rest => rw [List.append_eq_nil_iff, List.append_eq_nil_iff, alike.eq_nil_iff]

theorem getLast?_eq (h : SameOutline s t) : s.getLast? = t.getLast? := by
  cases h with
  | intro alike rest => rw [List.getLast?_append, List.getLast?_append, alike.getLast?_eq]

theorem dropWhile (h : SameOutline s t) : SameOutline (s.dropWhile isBlank) (t.dropWhile isBlank) := by
  cases h with
  | @intro x y alike rest =>
    have hdrop := alike.dropWhile
    have hempty : (x.dropWhile isBlank).isEmpty = (y.dropWhile isBlank).isEmpty := by
      rw [Bool.eq_iff_iff, List.isEmpty_iff, List.isEmpty_iff, hdrop.eq_nil_iff]
    rw [List.dropWhile_append, List.dropWhile_append, hempty]
    split
    · exact refl _
    · exact .intro hdrop rest

theorem rdropWhile (h : SameOutline s t) : SameOutline (s.rdropWhile isBlank) (t.rdropWhile isBlank) := by
  cases h with
  | intro alike rest =>
    rw [rdropWhile_append, rdropWhile_append]
    split
    · exact of_alike alike.rdropWhile
    · exact .intro alike _

theorem trimBlanks (h : SameOutline s t) : SameOutline (Text.trimBlanks s) (Text.trimBlanks t) := by
  rw [trimBlanks_eq, trimBlanks_eq]
  exact h.dropWhile.rdropWhile

end SameOutline

end SqlBuilder.Text

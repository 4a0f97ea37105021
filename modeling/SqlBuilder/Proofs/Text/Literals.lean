import SqlBuilder.Text.Quoted

/-!
# Literals in a text

A reader goes through SQL text from left to right and keeps track of the literals between single quotes,
in which a backslash takes the character after it literally.

* `Mode`, `Mode.next` : where the reader stands, and what one character changes.
* `skeleton` : a text without the contents of its literals; `literalCount` : how many literals it opens.
* `Sealed` : characters that can stand between two quotes: the reader does not leave the literal on the way,
  and no backslash is left over. The bodies of text and JSON literals are sealed, whatever they hold
  (`sealed_textBody`, `sealed_jsonBody`).
-/

namespace SqlBuilder.Text

set_option autoImplicit false

/-- Where a reader of SQL text stands. -/
inductive Mode where
  | bare
  | quoted
  /-- Inside a literal, right after a backslash. -/
  | escaped
deriving DecidableEq

namespace Mode

/-- Where the reader stands after one more character. -/
def next : Mode → Char → Mode
  | bare, c => if c = '\'' then quoted else bare
  | quoted, c => if c = '\\' then escaped else if c = '\'' then bare else quoted
  | escaped, _ => quoted

def after (mode : Mode) (cs : List Char) : Mode := cs.foldl next mode

theorem next_bare {c : Char} (hc : c ≠ '\'') : next bare c = bare := if_neg hc

/-- A character stays when it stands outside of literals or closes one. -/
def keeps (mode : Mode) (c : Char) : Bool := mode = bare || mode.next c = bare

end Mode

/-- The characters without the contents of literals. -/
def skeletonFrom : Mode → List Char → List Char
  | _, [] => []
  | mode, c :: cs =>
    if mode.keeps c then c :: skeletonFrom (mode.next c) cs else skeletonFrom (mode.next c) cs

/-- The number of literals that are opened. -/
def literalsFrom : Mode → List Char → Nat
  | _, [] => 0
  | mode, c :: cs =>
    (if mode = .bare ∧ mode.next c = .quoted then 1 else 0) + literalsFrom (mode.next c) cs

/-- A text without the contents of its literals; their quotes stay. -/
def skeleton (s : String) : String := String.ofList (skeletonFrom .bare s.toList)

def literalCount (s : String) : Nat := literalsFrom .bare s.toList

/-! ## Reading a text in two parts -/

theorem after_append (mode : Mode) (xs ys : List Char) : mode.after (xs ++ ys) = (mode.after xs).after ys := by
  unfold Mode.after
  rw [List.foldl_append]

theorem skeletonFrom_append (mode : Mode) (xs ys : List Char) :
    skeletonFrom mode (xs ++ ys) = skeletonFrom mode xs ++ skeletonFrom (mode.after xs) ys := by
  induction xs generalizing mode with
  | nil => rfl
  | cons c xs ih =>
    have h := ih (mode.next c)
    rw [List.cons_append, skeletonFrom, skeletonFrom]
    cases mode.keeps c
    · exact h
    · rw [if_pos rfl, if_pos rfl, h]
      rfl

theorem literalsFrom_append (mode : Mode) (xs ys : List Char) :
    literalsFrom mode (xs ++ ys) = literalsFrom mode xs + literalsFrom (mode.after xs) ys := by
  induction xs generalizing mode with
  | nil => exact (Nat.zero_add _).symm
  | cons c xs ih =>
    have h := ih (mode.next c)
    rw [List.cons_append, literalsFrom, literalsFrom, h, Nat.add_assoc]
    rfl

/-! ## Text that stays inside a literal -/

/-- Nothing of the characters is kept only if the reader stands in a literal before each of them. -/
theorem skeletonFrom_cons_eq_nil {mode : Mode} {c : Char} {cs : List Char} (h : skeletonFrom mode (c :: cs) = []) :
    mode ≠ .bare ∧ skeletonFrom (mode.next c) cs = [] := by
  rw [skeletonFrom] at h
  cases hk : mode.keeps c with
  | true =>
    rw [if_pos hk] at h
    cases h
  | false =>
    rw [hk] at h
    refine ⟨?_, h⟩
    intro e
    subst e
    cases hk

theorem literalsFrom_eq_zero {mode : Mode} {cs : List Char} (h : skeletonFrom mode cs = []) :
    literalsFrom mode cs = 0 := by
  induction cs generalizing mode with
  | nil => rfl
  | cons c cs ih =>
    obtain ⟨hmode, hrest⟩ := skeletonFrom_cons_eq_nil h
    rw [literalsFrom, if_neg (fun e => hmode e.1), ih hrest]

/-- Inside a literal the characters neither end it nor leave a backslash over. -/
structure Sealed (body : List Char) : Prop where
  after_eq : Mode.after .quoted body = .quoted
  skeleton_eq : skeletonFrom .quoted body = []

theorem sealed_nil : Sealed [] := ⟨rfl, rfl⟩

theorem sealed_append {xs ys : List Char} (hx : Sealed xs) (hy : Sealed ys) : Sealed (xs ++ ys) := by
  constructor
  · rw [after_append, hx.after_eq, hy.after_eq]
  · rw [skeletonFrom_append, hx.skeleton_eq, hx.after_eq, hy.skeleton_eq, List.append_nil]

theorem sealed_flatMap {write : Char → List Char} (h : ∀ c, Sealed (write c)) (cs : List Char) :
    Sealed (cs.flatMap write) := by
  induction cs with
  | nil => exact sealed_nil
  | cons c cs ih =>
    rw [List.flatMap_cons]
    exact sealed_append (h c) ih

theorem sealed_singleton {c : Char} (hquote : c ≠ '\'') (hslash : c ≠ '\\') : Sealed [c] := by
  have hnext : Mode.next .quoted c = .quoted := by rw [Mode.next, if_neg hslash, if_neg hquote]
  have hkeeps : Mode.keeps .quoted c = false := by simp [Mode.keeps, hnext]
  constructor
  · exact hnext
  · rw [skeletonFrom, hkeeps]
    rfl

/-- A backslash keeps the character after it in the literal. -/
theorem sealed_escaped (c : Char) : Sealed ['\\', c] := ⟨rfl, rfl⟩

theorem sealed_textChar (c : Char) : Sealed (textChar c) := by
  unfold textChar
  split
  case h_1 => exact sealed_escaped _
  case h_2 => exact sealed_escaped _
  case h_7 hslash hquote _ _ _ _ => exact sealed_singleton hquote hslash
  all_goals exact ⟨by decide, by decide⟩

theorem sealed_jsonChar (c : Char) : Sealed (jsonChar c) := by
  unfold jsonChar
  split
  case h_1 => exact sealed_escaped _
  case h_2 => exact sealed_escaped _
  case h_3 hslash hquote => exact sealed_singleton hquote hslash

theorem sealed_textBody (s : String) : Sealed (textBody s).toList := by
  rw [textBody, String.toList_ofList]
  exact sealed_flatMap sealed_textChar s.toList

theorem sealed_jsonBody (s : String) : Sealed (jsonBody s).toList := by
  rw [jsonBody, String.toList_ofList]
  exact sealed_flatMap sealed_jsonChar s.toList

/-! ## One literal in a text -/

section Literal
variable {body : List Char} (h : Sealed body) (rest : List Char)
include h

theorem after_literal : Mode.after .bare ('\'' :: (body ++ '\'' :: rest)) = Mode.after .bare rest := by
  have opened : Mode.after .bare ('\'' :: (body ++ '\'' :: rest)) = Mode.after .quoted (body ++ '\'' :: rest) := rfl
  rw [opened, after_append, h.after_eq]
  rfl

theorem skeletonFrom_literal :
    skeletonFrom .bare ('\'' :: (body ++ '\'' :: rest)) = '\'' :: '\'' :: skeletonFrom .bare rest := by
  have opened : skeletonFrom .bare ('\'' :: (body ++ '\'' :: rest)) =
      '\'' :: skeletonFrom .quoted (body ++ '\'' :: rest) := rfl
  rw [opened, skeletonFrom_append, h.skeleton_eq, h.after_eq]
  rfl

theorem literalsFrom_literal :
    literalsFrom .bare ('\'' :: (body ++ '\'' :: rest)) = 1 + literalsFrom .bare rest := by
  have opened : literalsFrom .bare ('\'' :: (body ++ '\'' :: rest)) =
      1 + literalsFrom .quoted (body ++ '\'' :: rest) := rfl
  have closing : literalsFrom .quoted ('\'' :: rest) = literalsFrom .bare rest := Nat.zero_add _
  rw [opened, literalsFrom_append, literalsFrom_eq_zero h.skeleton_eq, h.after_eq, Nat.zero_add, closing]

end Literal

end SqlBuilder.Text

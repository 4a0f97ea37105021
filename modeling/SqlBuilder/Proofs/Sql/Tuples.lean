import SqlBuilder.Proofs.Sql.Rows
import SqlBuilder.Proofs.Value.Literal

/-!
# Reading tuples back

A reader of lists of tuples, which knows three things: a run between single quotes is one piece, whatever it
holds; outside of quotes, round brackets begin and end a tuple; and outside of quotes, a comma ends an item.

* `TupleReader.step`, `readTuples?` : one character, and a whole text. A text is read to its end or not at all.
* `Readable` : text that is read as one item. The literal of a value that is not raw is readable (`readable_literal`).
* `readTuples?_bracketed` : tuples of readable items are read back as they were written.
-/

namespace SqlBuilder.Sql

set_option autoImplicit false

open Text (Mode)

/-- Where a reader of tuples stands, and what it has read. -/
inductive TupleReader where
  | due (done : List (List String))
  /-- In an item of a tuple, after whole items. -/
  | inside (done : List (List String)) (items : List String) (item : List Char) (mode : Mode)
  | closed (done : List (List String))

namespace TupleReader

def step : TupleReader → Char → Option TupleReader
  | due done, c => if c = '(' then some (inside done [] [] .bare) else none
  | inside done items item mode, c =>
    if mode = .bare ∧ c = ',' then some (inside done (items ++ [String.ofList item]) [] .bare)
    else if mode = .bare ∧ c = ')' then some (closed (done ++ [items ++ [String.ofList item]]))
    else if mode = .bare ∧ c = '(' then none
    else some (inside done items (item ++ [c]) (mode.next c))
  | closed done, c => if c = ',' then some (due done) else none

def run (reader : TupleReader) (cs : List Char) : Option TupleReader := cs.foldlM step reader

end TupleReader

def readTuples? (s : String) : Option (List (List String)) :=
  match TupleReader.run (.due []) s.toList with
  | some (.closed done) => some done
  | _ => none

/-! ## Reading an item -/

section Items
open TupleReader

variable {done : List (List String)} {items : List String} {item : List Char}

theorem run_cons {reader next : TupleReader} {c : Char} {cs : List Char} (h : reader.step c = some next) :
    reader.run (c :: cs) = next.run cs := by
  unfold run
  rw [List.foldlM_cons, h]
  rfl

theorem run_append {reader next : TupleReader} {xs : List Char} (ys : List Char) (h : reader.run xs = some next) :
    reader.run (xs ++ ys) = next.run ys := by
  unfold run at h ⊢
  rw [List.foldlM_append, h]
  rfl

theorem step_inside {mode : Mode} {c : Char} (h : mode ≠ .bare ∨ c ∉ [',', ')', '(']) :
    step (inside done items item mode) c = some (inside done items (item ++ [c]) (mode.next c)) := by
  have never : ∀ d ∈ [',', ')', '('], ¬ (mode = .bare ∧ c = d) := by
    rintro d hd ⟨hmode, rfl⟩
    exact h.elim (· hmode) (· hd)
  rw [step, if_neg (never ',' (by decide)), if_neg (never ')' (by decide)), if_neg (never '(' (by decide))]

theorem step_comma : step (inside done items item .bare) ',' =
    some (inside done (items ++ [String.ofList item]) [] .bare) := by
  rw [step, if_pos ⟨rfl, rfl⟩]

theorem step_bracket : step (inside done items item .bare) ')' =
    some (closed (done ++ [items ++ [String.ofList item]])) := by
  rw [step, if_neg (by decide), if_pos ⟨rfl, rfl⟩]

/-- As long as the reader does not leave a literal, it takes characters into the item. -/
theorem run_quoted {mode : Mode} {cs : List Char} (h : Text.skeletonFrom mode cs = []) :
    run (inside done items item mode) cs = some (inside done items (item ++ cs) (mode.after cs)) := by
  induction cs generalizing mode item with
  | nil =>
    rw [List.append_nil]
    rfl
  | cons c cs ih =>
    obtain ⟨hmode, hrest⟩ := Text.skeletonFrom_cons_eq_nil h
    rw [run_cons (step_inside (.inl hmode)), ih hrest, List.append_assoc]
    rfl

theorem run_plain {cs : List Char} (h : ∀ c ∈ cs, c ∉ Value.marks) :
    run (inside done items item .bare) cs = some (inside done items (item ++ cs) .bare) := by
  induction cs generalizing item with
  | nil =>
    rw [List.append_nil]
    rfl
  | cons c cs ih =>
    have hc : c ∉ Value.marks := h c List.mem_cons_self
    have hquote : c ≠ '\'' := by
      rintro rfl
      exact hc (by decide)
    have hstep : c ∉ [',', ')', '('] := fun hm => hc (by simp [Value.marks] at hm ⊢; tauto)
    rw [run_cons (step_inside (.inr hstep)), Mode.next_bare hquote, ih fun d hd => h d (List.mem_cons_of_mem c hd),
      List.append_assoc]
    rfl

/-- The reader takes the whole text into an item. -/
def Readable (text : String) : Prop :=
  ∀ (done : List (List String)) (items : List String),
    run (inside done items [] .bare) text.toList = some (inside done items text.toList .bare)

/-- The literal of any value but raw SQL is one item, whatever a text or a document holds. -/
theorem readable_literal {v : Value} (hraw : v.isRaw = false) : Readable v.literal := by
  intro done items
  cases hv : v.isQuoted with
  | false => exact run_plain fun c hc => Value.not_mark_of_mem_literal hv hraw hc
  | true =>
    obtain ⟨body, hbody, hliteral⟩ := Value.literal_of_isQuoted hv
    have opened : step (inside done items [] .bare) '\'' = some (inside done items ['\''] .quoted) :=
      step_inside (.inr (by decide))
    have through : run (inside done items ['\''] .quoted) body = some (inside done items ('\'' :: body) .quoted) := by
      rw [run_quoted hbody.skeleton_eq, hbody.after_eq]
      rfl
    have closing : step (inside done items ('\'' :: body) .quoted) '\'' =
        some (inside done items ('\'' :: body ++ ['\'']) .bare) := step_inside (.inl (by decide))
    rw [hliteral, run_cons opened, run_append _ through, run_cons closing]
    rfl

end Items

/-! ## Reading tuples -/

section Tuples
open TupleReader

theorem toList_join_cons (x y : String) (l : List String) :
    (",".intercalate (x :: y :: l)).toList = x.toList ++ ',' :: (",".intercalate (y :: l)).toList := by
  rw [String.intercalate_cons_cons, String.toList_append, String.toList_append, List.append_assoc]
  rfl

theorem run_items {done : List (List String)} {items : List String} {x : String} {l : List String}
    (h : ∀ item ∈ x :: l, Readable item) :
    run (inside done items [] .bare) ((",".intercalate (x :: l)).toList ++ [')']) =
      some (closed (done ++ [items ++ x :: l])) := by
  have hx : Readable x := h x List.mem_cons_self
  induction l generalizing items x with
  | nil =>
    rw [String.intercalate_singleton, run_append _ (hx done items), run_cons step_bracket, String.ofList_toList]
    rfl
  | cons y l ih =>
    have hrest : ∀ item ∈ y :: l, Readable item := fun item hitem => h item (List.mem_cons_of_mem x hitem)
    rw [toList_join_cons, List.append_assoc, run_append _ (hx done items), List.cons_append, run_cons step_comma,
      String.ofList_toList, ih hrest (hrest y List.mem_cons_self), List.append_assoc]
    rfl

theorem run_bracketed (done : List (List String)) {items : List String} (hne : items ≠ [])
    (h : ∀ item ∈ items, Readable item) :
    run (due done) (bracketed items).toList = some (closed (done ++ [items])) := by
  obtain ⟨x, l, rfl⟩ := List.exists_cons_of_ne_nil hne
  have opened : step (due done) '(' = some (inside done [] [] .bare) := by rw [step, if_pos rfl]
  have htext : (bracketed (x :: l)).toList = '(' :: ((",".intercalate (x :: l)).toList ++ [')']) := by
    rw [bracketed, String.toList_append, String.toList_append, List.append_assoc]
    rfl
  rw [htext, run_cons opened, run_items h, List.nil_append]

theorem run_tuples (done : List (List String)) {x : List String} {l : List (List String)}
    (hne : ∀ tuple ∈ x :: l, tuple ≠ []) (h : ∀ tuple ∈ x :: l, ∀ item ∈ tuple, Readable item) :
    run (due done) (",".intercalate ((x :: l).map bracketed)).toList = some (closed (done ++ x :: l)) := by
  have first := run_bracketed done (hne x List.mem_cons_self) (h x List.mem_cons_self)
  -- A comma between two tuples takes the reader back to where a tuple is due, with one more done.
  induction l generalizing done x with
  | nil => exact first
  | cons y l ih =>
    have next : step (closed (done ++ [x])) ',' = some (due (done ++ [x])) := by rw [step, if_pos rfl]
    have hne' : ∀ tuple ∈ y :: l, tuple ≠ [] := fun tuple ht => hne tuple (List.mem_cons_of_mem x ht)
    have h' : ∀ tuple ∈ y :: l, ∀ item ∈ tuple, Readable item :=
      fun tuple ht => h tuple (List.mem_cons_of_mem x ht)
    have rest := ih (done ++ [x]) hne' h' (run_bracketed _ (hne' y List.mem_cons_self) (h' y List.mem_cons_self))
    rw [List.map_cons, List.map_cons, toList_join_cons, run_append _ first, run_cons next, ← List.map_cons, rest,
      List.append_assoc]
    rfl

/-- Tuples of readable items are read back as they were written. -/
theorem readTuples?_bracketed {rows : List (List String)} (hrows : rows ≠ []) (hne : ∀ tuple ∈ rows, tuple ≠ [])
    (h : ∀ tuple ∈ rows, ∀ item ∈ tuple, Readable item) :
    readTuples? (",".intercalate (rows.map bracketed)) = some rows := by
  obtain ⟨x, l, rfl⟩ := List.exists_cons_of_ne_nil hrows
  rw [readTuples?, run_tuples [] hne h, List.nil_append]

end Tuples

end SqlBuilder.Sql

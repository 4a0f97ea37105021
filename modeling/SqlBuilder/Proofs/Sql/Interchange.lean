import SqlBuilder.Proofs.Sql.Rows
import SqlBuilder.Proofs.Text.Alike
import SqlBuilder.Proofs.Value.Literal
import SqlBuilder.Sql.Parameters

/-!
# Interchanging cells

Two payloads are interchangeable when they have the same shape and the same columns, and cell by cell hold
values that are both quoted, or the same value. The texts that they are written to are alike.

* `Value.Interchangeable`, `Record.Interchangeable`, `Payload.Interchangeable` : the relation.
* `Agree R` : two results that are the same error, or values that are related.
* `insertParameters_agree`, `updateParameters_alike` : interchangeable payloads are written alike.
-/

namespace SqlBuilder

set_option autoImplicit false

/-! ## The relation -/

/-- Both values are written between quotes, or they are the same; raw SQL is not interchangeable. -/
inductive Value.Interchangeable : Value → Value → Prop
  | quoted {v w : Value} (hv : v.isQuoted = true) (hw : w.isQuoted = true) : Interchangeable v w
  | same {v : Value} (hraw : v.isRaw = false) : Interchangeable v v

/-- The same columns in the same order, with interchangeable values. -/
def Record.Interchangeable (r s : Record) : Prop :=
  List.Forall₂ (fun e f => e.1 = f.1 ∧ Value.Interchangeable e.2 f.2) r.entries s.entries

/-- The same shape, with interchangeable values. -/
inductive Payload.Interchangeable : Payload → Payload → Prop
  | map {r s : Record} (h : Record.Interchangeable r s) : Interchangeable (.map r) (.map s)
  | rows {rs ss : List Record} (h : List.Forall₂ Record.Interchangeable rs ss) : Interchangeable (.rows rs) (.rows ss)
  | list {vs ws : List Value} (h : List.Forall₂ Value.Interchangeable vs ws) : Interchangeable (.list vs) (.list ws)

def Payload.columns : Payload → List String
  | text _ | list _ => []
  | map record => record.columns
  | rows records => records.flatMap Record.columns

/-- Two results that are the same error, or related values. -/
inductive Agree {ε α β : Type} (R : α → β → Prop) : Except ε α → Except ε β → Prop
  | ok {a : α} {b : β} (h : R a b) : Agree R (.ok a) (.ok b)
  | error (e : ε) : Agree R (.error e) (.error e)

theorem Agree.map {ε α β γ δ : Type} {R : α → β → Prop} {S : γ → δ → Prop} {f : α → γ} {g : β → δ}
    {x : Except ε α} {y : Except ε β} (h : Agree R x y) (hfg : ∀ a b, R a b → S (f a) (g b)) :
    Agree S (x.map f) (y.map g) := by
  cases h with
  | ok h => exact .ok (hfg _ _ h)
  | error e => exact .error e

/-! ## Texts -/

/-- Texts that are the same but for what stands in their literals. -/
def AlikeText (s t : String) : Prop := Text.Alike s.toList t.toList

theorem AlikeText.refl {s : String} (h : '\'' ∉ s.toList) : AlikeText s s := Text.Alike.refl h

theorem AlikeText.append {s t u v : String} (h : AlikeText s t) (h' : AlikeText u v) :
    AlikeText (s ++ u) (t ++ v) := by
  unfold AlikeText
  rw [String.toList_append, String.toList_append]
  exact Text.Alike.append h h'

theorem AlikeText.intercalate {mark : String} (hmark : '\'' ∉ mark.toList) {xs ys : List String}
    (h : List.Forall₂ AlikeText xs ys) : AlikeText (mark.intercalate xs) (mark.intercalate ys) := by
  induction h with
  | nil => exact .refl (by simp)
  | cons first rest ih =>
    cases rest with
    | nil =>
      rw [String.intercalate_singleton, String.intercalate_singleton]
      exact first
    | cons next rest =>
      rw [String.intercalate_cons_cons, String.intercalate_cons_cons]
      exact (first.append (.refl hmark)).append ih

theorem AlikeText.bracketed {xs ys : List String} (h : List.Forall₂ AlikeText xs ys) :
    AlikeText (Sql.bracketed xs) (Sql.bracketed ys) := by
  have comma : AlikeText (",".intercalate xs) (",".intercalate ys) := intercalate (by decide) h
  exact ((refl (by decide)).append comma).append (refl (by decide))

theorem forall₂_alike_of_not_mem {names : List String} (h : ∀ name ∈ names, '\'' ∉ name.toList) :
    List.Forall₂ AlikeText names names :=
  List.forall₂_same.2 fun name hname => .refl (h name hname)

theorem Value.Interchangeable.literal {v w : Value} (h : Value.Interchangeable v w) :
    AlikeText v.literal w.literal := by
  have of_quoted {v w : Value} (hv : v.isQuoted = true) (hw : w.isQuoted = true) : AlikeText v.literal w.literal := by
    obtain ⟨body, hbody, hliteral⟩ := Value.literal_of_isQuoted hv
    obtain ⟨body', hbody', hliteral'⟩ := Value.literal_of_isQuoted hw
    unfold AlikeText
    rw [hliteral, hliteral']
    exact .literal hbody hbody' .nil
  cases h with
  | quoted hv hw => exact of_quoted hv hw
  | same hraw =>
    cases hv : v.isQuoted with
    | true => exact of_quoted hv hv
    | false => exact .refl fun hmem => Value.not_mark_of_mem_literal hv hraw hmem (by decide)

/-! ## Records -/

namespace Record.Interchangeable

variable {r s : Record}

theorem columns_eq (h : Record.Interchangeable r s) : r.columns = s.columns := by
  have h' : List.Forall₂ (fun e f => e.1 = f.1 ∧ Value.Interchangeable e.2 f.2) r.toList s.toList := h
  unfold Record.columns KeyedList.keys
  generalize r.toList = es at h'
  generalize s.toList = fs at h'
  induction h' with
  | nil => rfl
  | cons first _ ih => rw [List.map_cons, List.map_cons, first.1, ih]

theorem get?_rel (h : Record.Interchangeable r s) (column : String) :
    Option.Rel Value.Interchangeable (r.get? column) (s.get? column) := by
  have h' : List.Forall₂ (fun e f => e.1 = f.1 ∧ Value.Interchangeable e.2 f.2) r.toList s.toList := h
  unfold Record.get? KeyedList.get?
  generalize r.toList = es at h'
  generalize s.toList = fs at h'
  induction h' with
  | nil => exact .none
  | @cons e f es fs first _ ih =>
    by_cases hcolumn : e.1 = column
    · rw [List.find?_cons_of_pos (by simpa using hcolumn), List.find?_cons_of_pos (by simpa [← first.1] using hcolumn)]
      exact .some first.2
    · rw [List.find?_cons_of_neg (by simpa using hcolumn), List.find?_cons_of_neg (by simpa [← first.1] using hcolumn)]
      exact ih

theorem assignments (h : Record.Interchangeable r s) (hcolumns : ∀ column ∈ r.columns, '\'' ∉ column.toList) :
    AlikeText (Payload.assignments Value.literal r) (Payload.assignments Value.literal s) := by
  have h' : List.Forall₂ (fun e f => e.1 = f.1 ∧ Value.Interchangeable e.2 f.2) r.entries s.entries := h
  have hnames : ∀ e ∈ r.entries, '\'' ∉ e.1.toList := fun e he => hcolumns e.1 (List.mem_map_of_mem he)
  apply AlikeText.intercalate (by decide)
  generalize r.entries = es at h' hnames
  generalize s.entries = fs at h'
  induction h' with
  | nil => exact .nil
  | @cons e f es fs first _ ih =>
    have name : AlikeText (e.1 ++ " = ") (f.1 ++ " = ") := by
      rw [← first.1]
      exact (AlikeText.refl (hnames e List.mem_cons_self)).append (.refl (by decide))
    exact .cons (name.append first.2.literal) (ih fun e he => hnames e (List.mem_cons_of_mem _ he))

end Record.Interchangeable

/-! ## Rows of records -/

namespace Sql

theorem columns_eq_of_interchangeable {rs ss : List Record} (h : List.Forall₂ Record.Interchangeable rs ss) :
    rs.map Record.columns = ss.map Record.columns := by
  induction h with
  | nil => rfl
  | cons first _ ih => rw [List.map_cons, List.map_cons, first.columns_eq, ih]

/-- The columns of records hang on the columns of each alone. -/
theorem columnsOf_congr {rs ss : List Record} (h : rs.map Record.columns = ss.map Record.columns) :
    columnsOf rs = columnsOf ss := by
  rw [columnsOf_eq, columnsOf_eq, List.flatMap_def, List.flatMap_def, h]

theorem emptyRow?_congr {rs ss : List Record} (h : rs.map Record.columns = ss.map Record.columns) :
    emptyRow? rs = emptyRow? ss := by
  have emptyRow?_eq (records : List Record) : emptyRow? records =
      (records.map Record.columns).findIdx? List.isEmpty := by
    rw [List.findIdx?_map, emptyRow?]
    congr 1
    funext record
    exact List.isEmpty_map.symm
  rw [emptyRow?_eq, emptyRow?_eq, h]

theorem literals_agree {r s : Record} (h : Record.Interchangeable r s) (row : Nat) (columns : List String) :
    Agree (List.Forall₂ AlikeText) (literals row r columns) (literals row s columns) := by
  induction columns with
  | nil => exact .ok .nil
  | cons column columns ih =>
    have cell := h.get?_rel column
    rw [literals, literals]
    generalize r.get? column = v at cell
    generalize s.get? column = w at cell
    cases cell with
    | none => exact .error _
    | some hvw => exact ih.map fun xs ys hrest => .cons hvw.literal hrest

theorem tuples_agree {rs ss : List Record} (h : List.Forall₂ Record.Interchangeable rs ss) (columns : List String)
    (row : Nat) : Agree (List.Forall₂ AlikeText) (tuples columns row rs) (tuples columns row ss) := by
  induction h generalizing row with
  | nil => exact .ok .nil
  | @cons r s rs ss first _ ih =>
    have items := literals_agree first row columns
    have others := ih (row + 1)
    rw [tuples, tuples]
    generalize literals row r columns = x at items
    generalize literals row s columns = y at items
    cases items with
    | error fault => exact .error fault
    | ok hitems => exact others.map fun xs ys hrest => .cons (.bracketed hitems) hrest

/-- Interchangeable rows are refused alike, or written alike. -/
theorem valuesClause_agree {rs ss : List Record} (h : List.Forall₂ Record.Interchangeable rs ss)
    (hcolumns : ∀ column ∈ (Payload.rows rs).columns, '\'' ∉ column.toList) :
    Agree AlikeText (valuesClause rs) (valuesClause ss) := by
  have hmap := columns_eq_of_interchangeable h
  have hnone : rs.isEmpty = ss.isEmpty := by rw [← List.isEmpty_map, hmap, List.isEmpty_map]
  have hnames : ∀ column ∈ columnsOf rs, '\'' ∉ column.toList := by
    intro column hcolumn
    obtain ⟨record, hrecord, hmem⟩ := mem_columnsOf.1 hcolumn
    exact hcolumns column (List.mem_flatMap.2 ⟨record, hrecord, hmem⟩)
  have header : AlikeText (bracketed (columnsOf rs) ++ " VALUES ") (bracketed (columnsOf rs) ++ " VALUES ") :=
    (AlikeText.bracketed (forall₂_alike_of_not_mem hnames)).append (.refl (by decide))
  rw [valuesClause, valuesClause, ← hnone, ← emptyRow?_congr hmap, ← columnsOf_congr hmap]
  cases rs.isEmpty with
  | true => exact .error _
  | false =>
    cases emptyRow? rs with
    | some row => exact .error _
    | none => exact (tuples_agree h _ 0).map fun xs ys hrows => header.append (.intercalate (by decide) hrows)

/-! ## Parameters -/

theorem insertParameters_agree {p q : Payload} (h : Payload.Interchangeable p q)
    (hcolumns : ∀ column ∈ p.columns, '\'' ∉ column.toList) :
    Agree AlikeText (insertParameters p) (insertParameters q) := by
  cases h with
  | rows h => exact valuesClause_agree h hcolumns
  | @map r s h => exact valuesClause_agree (.cons h .nil) (by simpa [Payload.columns] using hcolumns)
  | list h =>
    have literals := h.imp fun _ _ => Value.Interchangeable.literal
    have items := List.forall₂_map_left_iff.2 (List.forall₂_map_right_iff.2 literals)
    exact .ok (AlikeText.append (.refl (by decide)) (.bracketed items))

theorem updateParameters_alike {r s : Record} (h : Record.Interchangeable r s)
    (hcolumns : ∀ column ∈ r.columns, '\'' ∉ column.toList) :
    AlikeText (updateParameters (.map r)) (updateParameters (.map s)) :=
  AlikeText.append (.refl (by decide)) (h.assignments hcolumns)

end Sql

end SqlBuilder

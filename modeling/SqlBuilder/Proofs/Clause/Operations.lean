import SqlBuilder.Proofs.Clause.History

/-!
# Declared clauses after storing and clearing

Clauses are stored and cleared in any order. What is there in the end can be told from what was stored since the
last clearing.

* `Clauses.Operation`, `Clauses.applyAll` : a sequence of stores and clearings, and the clauses it leaves.
* `Clauses.sinceClear` : what was stored since the last clearing. One operation more is one step of it
  (`Clauses.sinceClear_concat`), and the clauses are those of this history (`Clauses.applyAll_eq`).
* `Clauses.Reflects` : all that can be observed of the clauses, told from a history.
* `applyAll_reflects` : after any sequence of operations the clauses reflect what was stored since the last clearing.
-/

namespace SqlBuilder

set_option autoImplicit false

namespace Clauses

open Clause

/-! ## Sequences of operations -/

inductive Operation where
  | store (clause : Clause)
  | clear

def Operation.clause? : Operation → Option Clause
  | store clause => some clause
  | clear => none

def apply (clauses : Clauses) : Operation → Clauses
  | .store clause => clauses.store clause
  | .clear => .empty

/-- The clauses after operations that start without any. -/
def applyAll (operations : List Operation) : Clauses := operations.foldl apply .empty

/-- The clauses that were stored since the last clearing. -/
def sinceClear (operations : List Operation) : List Clause :=
  (operations.reverse.takeWhile fun operation => operation.clause?.isSome).reverse.filterMap Operation.clause?

theorem sinceClear_concat (operations : List Operation) (operation : Operation) :
    sinceClear (operations ++ [operation]) =
      match operation with
      | .store clause => sinceClear operations ++ [clause]
      | .clear => [] := by
  unfold sinceClear
  rw [List.reverse_concat]
  cases operation with
  | store clause =>
    rw [List.takeWhile_cons_of_pos (by rfl), List.reverse_cons, List.filterMap_append]
    rfl
  | clear =>
    rw [List.takeWhile_cons_of_neg (by simp [Operation.clause?])]
    rfl

theorem applyAll_eq (operations : List Operation) : applyAll operations = ofHistory (sinceClear operations) := by
  -- From the end: a store is one `put` more, and a clearing forgets what was before it.
  induction operations using List.reverseRecOn with
  | nil => rfl
  | append_singleton operations operation ih =>
    have step : applyAll (operations ++ [operation]) = (applyAll operations).apply operation := by
      rw [applyAll, List.foldl_concat]
      rfl
    rw [step, ih, sinceClear_concat]
    cases operation with
    | store clause => exact (KeyedList.ofList_concat (sinceClear operations) clause).symm
    | clear => rfl

/-! ## Looking by kind -/

theorem slot_eq_kind_iff {k : Kind} (hk : k ≠ .custom) (clause : Clause) : clause.slot = .kind k ↔ clause.kind = k := by
  cases clause with
  | custom fragment =>
    have hkind : (Clause.custom fragment).kind ≠ k := hk.symm
    have hslot : (Clause.custom fragment).slot ≠ .kind k := nofun
    exact iff_of_false hslot hkind
  | _ => exact ⟨Slot.kind.inj, congrArg Slot.kind⟩

theorem find?_kind {k : Kind} (hk : k ≠ .custom) (l : List Clause) :
    l.find? (fun clause => clause.kind = k) = l.find? fun clause => clause.slot = .kind k := by
  simp only [slot_eq_kind_iff hk]

/-- The first clause of the kind of custom fragments is the first custom fragment. -/
theorem find?_custom (l : List Clause) :
    l.find? (fun clause => clause.kind = .custom) = (l.filterMap custom?).head?.map Clause.custom := by
  induction l with
  | nil => rfl
  | cons head tail ih =>
    cases head with
    | custom fragment => rfl
    | _ => exact ih

/-! ## What can be observed -/

/-- The clauses are told from a history of stores: at most one in each slot, in the order in which the slots were
first stored, each as it was stored last. -/
structure Reflects (clauses : Clauses) (history : List Clause) : Prop where
  one_of_kind : ∀ k, k ≠ Kind.custom → clauses.toList.countP (fun clause => clause.kind = k) ≤ 1
  one_of_label : ∀ label, clauses.customs.countP (fun fragment => fragment.label = label) ≤ 1
  slots : clauses.toList.map slot = (history.map slot).eraseDups
  contents : ∀ s, clauses.get? s = history.reverse.find? fun clause => clause.slot = s
  all : clauses.toList = (history.map slot).eraseDups.filterMap fun s =>
    history.reverse.find? fun clause => clause.slot = s
  size : clauses.size = (history.map slot).toFinset.card
  rebuilt : clauses.toList.foldl store .empty = clauses
  verb : clauses.verb? = last? Clause.verb? history
  table : clauses.table? = last? Clause.table? history
  params : clauses.params? = last? Clause.params? history
  filter : clauses.filter? = last? Clause.filter? history
  limit : clauses.limit? = last? Clause.limit? history
  order : clauses.order? = last? Clause.order? history
  of_kind : ∀ k, k ≠ Kind.custom → clauses.ofKind? k = history.reverse.find? fun clause => clause.kind = k
  first_custom : clauses.ofKind? .custom = (lastCustoms history).head?.map Clause.custom
  customs : clauses.customs = lastCustoms history
  labels : clauses.customs.map Custom.label = ((history.filterMap custom?).map Custom.label).eraseDups

theorem labels_ofHistory (history : List Clause) :
    (ofHistory history).customs.map Custom.label = ((history.filterMap custom?).map Custom.label).eraseDups := by
  have keys : (KeyedList.ofList (history.filterMap custom?) : KeyedList Custom.label).keys =
      ((history.filterMap custom?).map Custom.label).eraseDups := KeyedList.keys_ofList _
  rw [customs_ofHistory_eq]
  exact keys

theorem ofHistory_reflects (history : List Clause) : (ofHistory history).Reflects history where
  one_of_kind k hk :=
    countP_le_one (ofHistory history).keys_nodup fun clause hclause =>
      (slot_eq_kind_iff hk clause).2 (of_decide_eq_true hclause)
  one_of_label label := by
    rw [customs_ofHistory_eq]
    exact countP_le_one (KeyedList.keys_nodup _) fun fragment hfragment => of_decide_eq_true hfragment
  slots := KeyedList.keys_ofList history
  contents := KeyedList.get?_ofList history
  all := KeyedList.toList_ofList history
  size := KeyedList.size_ofList history
  rebuilt := KeyedList.ofList_toList (ofHistory history)
  verb := verb?_ofHistory history
  table := table?_ofHistory history
  params := params?_ofHistory history
  filter := filter?_ofHistory history
  limit := limit?_ofHistory history
  order := order?_ofHistory history
  of_kind k hk := by
    rw [ofKind?, find?_kind hk, find?_kind hk]
    exact KeyedList.get?_ofList history (Slot.kind k)
  first_custom := by
    rw [ofKind?, find?_custom, ← customs_eq, customs_ofHistory]
  customs := customs_ofHistory history
  labels := labels_ofHistory history

end Clauses

/-- After any sequence of stores and clearings the clauses are those that were stored since the last clearing: one for
each slot, where it was first stored and as it was stored last, and every look finds what was stored last. A look for
a custom fragment finds the one whose label was stored first. -/
theorem applyAll_reflects (operations : List Clauses.Operation) :
    (Clauses.applyAll operations).Reflects (Clauses.sinceClear operations) := by
  rw [Clauses.applyAll_eq]
  exact Clauses.ofHistory_reflects _

/-- Two custom fragments, the second of which was stored last. -/
def twoFragments : List Clauses.Operation :=
  [.store (.custom ⟨"one", "a", true⟩), .store (.custom ⟨"two", "b", true⟩)]

/-- A look by kind does not find the custom fragment that was stored last. -/
theorem ofKind?_custom_not_last :
    (Clauses.applyAll twoFragments).ofKind? .custom = some (.custom ⟨"one", "a", true⟩) ∧
    (Clauses.sinceClear twoFragments).reverse.find? (fun clause => clause.kind = .custom) =
      some (.custom ⟨"two", "b", true⟩) ∧
    ¬ ∀ operations kind, (Clauses.applyAll operations).ofKind? kind =
      (Clauses.sinceClear operations).reverse.find? fun clause => clause.kind = kind := by
  have found : (Clauses.applyAll twoFragments).ofKind? .custom = some (.custom ⟨"one", "a", true⟩) := rfl
  have stored : (Clauses.sinceClear twoFragments).reverse.find? (fun clause => clause.kind = .custom) =
      some (.custom ⟨"two", "b", true⟩) := rfl
  refine ⟨found, stored, ?_⟩
  intro same
  have fragments := same twoFragments .custom
  rw [found, stored] at fragments
  exact absurd (Clause.custom.inj (Option.some.inj fragments)) (by decide)

end SqlBuilder

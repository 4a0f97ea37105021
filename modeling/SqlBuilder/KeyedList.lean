/-!
# Keyed lists

Lists whose entries carry a key, in the order in which the keys were first stored. Storing an
entry under a key that is present replaces the entry where it stands; a new key goes to the end.

* `upsert` : the operation on plain lists.
* `KeyedList key` : a list with pairwise different keys, with `put`, `get?`, `keys` and `ofList`.
-/

namespace SqlBuilder

set_option autoImplicit false

variable {α κ : Type} [DecidableEq κ]

/-! ## Replacing or appending in a list -/

/-- Replaces the first entry that has the key of `entry`, or appends `entry`. -/
def upsert (key : α → κ) (entry : α) : List α → List α
  | [] => [entry]
  | head :: tail => if key head = key entry then entry :: tail else head :: upsert key entry tail

theorem map_key_upsert (key : α → κ) (entry : α) (l : List α) :
    (upsert key entry l).map key =
      if key entry ∈ l.map key then l.map key else l.map key ++ [key entry] := by
  induction l with
  | nil => simp [upsert]
  | cons head tail ih =>
    by_cases h : key head = key entry
    · simp [upsert, h]
    · have hne : key entry ≠ key head := fun e => h e.symm
      by_cases ht : key entry ∈ tail.map key
      · simp only [upsert, if_neg h, List.map_cons, ih, if_pos ht, List.mem_cons, hne, false_or]
      · simp only [upsert, if_neg h, List.map_cons, ih, if_neg ht, List.mem_cons, hne, false_or,
          List.cons_append]

theorem nodup_keys_upsert (key : α → κ) (entry : α) (l : List α) (h : (l.map key).Nodup) :
    ((upsert key entry l).map key).Nodup := by
  rw [map_key_upsert]
  split
  · exact h
  · next hmem =>
    rw [List.nodup_append]
    refine ⟨h, by simp, ?_⟩
    intro a ha b hb
    rw [List.mem_singleton] at hb
    subst hb
    exact fun e => hmem (e ▸ ha)

theorem upsert_of_not_mem (key : α → κ) (entry : α) (l : List α) (h : key entry ∉ l.map key) :
    upsert key entry l = l ++ [entry] := by
  induction l with
  | nil => rfl
  | cons head tail ih =>
    rw [List.map_cons, List.mem_cons, not_or] at h
    rw [upsert, if_neg (fun e => h.1 e.symm), ih h.2, List.cons_append]

theorem find?_upsert (key : α → κ) (entry : α) (l : List α) (k : κ) :
    (upsert key entry l).find? (fun a => key a = k) =
      if key entry = k then some entry else l.find? (fun a => key a = k) := by
  induction l with
  | nil => by_cases h : key entry = k <;> simp [upsert, h]
  | cons head tail ih =>
    by_cases h : key head = key entry
    · by_cases hk : key entry = k
      · simp [upsert, h, hk]
      · have hk' : key head ≠ k := fun e => hk (h ▸ e)
        simp [upsert, h, hk]
    · by_cases hk : key head = k
      · have hne : key entry ≠ k := fun e => h (hk.trans e.symm)
        rw [upsert, if_neg h, List.find?_cons_of_pos (by simpa using hk), if_neg hne,
          List.find?_cons_of_pos (by simpa using hk)]
      · rw [upsert, if_neg h, List.find?_cons_of_neg (by simpa using hk), ih,
          List.find?_cons_of_neg (by simpa using hk)]

/-! ## Lists with pairwise different keys -/

/-- Entries in the order in which their keys were first stored, no two with the same key. -/
structure KeyedList (key : α → κ) where
  toList : List α := []
  keys_nodup : (toList.map key).Nodup := by simp

namespace KeyedList

variable {key : α → κ}

def keys (l : KeyedList key) : List κ := l.toList.map key

/-- Stores an entry, in the place of the entry with the same key if there is one. -/
def put (l : KeyedList key) (entry : α) : KeyedList key :=
  ⟨upsert key entry l.toList, nodup_keys_upsert key entry l.toList l.keys_nodup⟩

def putAll (l : KeyedList key) (entries : List α) : KeyedList key := entries.foldl put l

def ofList (entries : List α) : KeyedList key := putAll {} entries

def get? (l : KeyedList key) (k : κ) : Option α := l.toList.find? (fun a => key a = k)

def size (l : KeyedList key) : Nat := l.toList.length

def isEmpty (l : KeyedList key) : Bool := l.toList.isEmpty

instance [BEq α] : BEq (KeyedList key) := ⟨fun l r => l.toList == r.toList⟩

theorem toList_put (l : KeyedList key) (entry : α) :
    (l.put entry).toList = upsert key entry l.toList := rfl

theorem keys_put (l : KeyedList key) (entry : α) :
    (l.put entry).keys = if key entry ∈ l.keys then l.keys else l.keys ++ [key entry] :=
  map_key_upsert key entry l.toList

theorem get?_put (l : KeyedList key) (entry : α) (k : κ) :
    (l.put entry).get? k = if key entry = k then some entry else l.get? k :=
  find?_upsert key entry l.toList k

end KeyedList

end SqlBuilder

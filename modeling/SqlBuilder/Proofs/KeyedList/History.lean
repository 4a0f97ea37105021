import Mathlib.Data.Finset.Card
import Mathlib.Data.List.Induction
import Mathlib.Data.List.Perm.Basic
import SqlBuilder.KeyedList

/-!
# Keyed lists after a history of stores

A keyed list is determined by what was stored in it: its keys stand in the order in which they were first
stored, and under each stands the entry that was stored last.

* `find?_eq_some_of_mem`, `find?_eq_some_iff_of_nodup`, `find?_perm` : looking up in lists with pairwise different keys.
* `upsert_of_mem` : storing under a key that is present.
* `KeyedList.last?` : the entry that was stored last under a key.
* `KeyedList.keys_ofList`, `KeyedList.get?_ofList`, `KeyedList.toList_ofList` : keys, entries and the whole list.
* `KeyedList.size_ofList` : as many entries as there are keys in the history.
* `KeyedList.ofList_toList` : storing the entries of a keyed list one by one gives the list back.
-/

namespace SqlBuilder

set_option autoImplicit false

variable {α κ : Type} {key : α → κ}

/-! ## Lists without repetitions -/

theorem eraseDups_concat [DecidableEq α] (l : List α) (a : α) :
    (l ++ [a]).eraseDups = if a ∈ l then l.eraseDups else l.eraseDups ++ [a] := by
  rw [List.eraseDups_append]
  by_cases h : a ∈ l <;> simp [List.removeAll, List.eraseDups_cons, h]

/-! ## Lists with pairwise different keys -/

theorem KeyedList.ext_toList {l r : KeyedList key} (h : l.toList = r.toList) : l = r := by
  cases l
  cases r
  cases h
  rfl

theorem countP_le_one {l : List α} (h : (l.map key).Nodup) {p : α → Bool} {k : κ}
    (hp : ∀ a, p a = true → key a = k) : l.countP p ≤ 1 := by
  induction l with
  | nil => exact Nat.zero_le 1
  | cons head tail ih =>
    rw [List.map_cons, List.nodup_cons] at h
    by_cases hhead : p head = true
    · have absent : tail.countP p = 0 := by
        rw [List.countP_eq_zero]
        intro a ha hpa
        have hkey : key a = key head := (hp a hpa).trans (hp head hhead).symm
        exact h.1 (hkey ▸ List.mem_map_of_mem ha)
      rw [List.countP_cons_of_pos hhead, absent]
    · rw [List.countP_cons_of_neg hhead]
      exact ih h.2

variable [DecidableEq κ]

theorem find?_eq_some_of_mem {l : List α} (h : (l.map key).Nodup) {a : α} (ha : a ∈ l) :
    l.find? (fun b => key b = key a) = some a := by
  induction l with
  | nil => cases ha
  | cons head tail ih =>
    rw [List.map_cons, List.nodup_cons] at h
    obtain rfl | htail := List.mem_cons.1 ha
    · rw [List.find?_cons_of_pos (by simp)]
    · have hne : key head ≠ key a := fun e => h.1 (e ▸ List.mem_map_of_mem htail)
      rw [List.find?_cons_of_neg (by simpa using hne), ih h.2 htail]

theorem find?_eq_some_iff_of_nodup {l : List α} (h : (l.map key).Nodup) {a : α} {k : κ} :
    l.find? (fun b => key b = k) = some a ↔ a ∈ l ∧ key a = k := by
  constructor
  · intro found
    exact ⟨List.mem_of_find?_eq_some found, by simpa using List.find?_some found⟩
  · rintro ⟨ha, rfl⟩
    exact find?_eq_some_of_mem h ha

theorem find?_perm {l r : List α} (hperm : l.Perm r) (h : (l.map key).Nodup) (k : κ) :
    l.find? (fun b => key b = k) = r.find? (fun b => key b = k) := by
  cases hr : r.find? (fun b => key b = k) with
  | none =>
    rw [List.find?_eq_none] at hr ⊢
    exact fun a ha => hr a (hperm.mem_iff.1 ha)
  | some a =>
    have hkey : key a = k := by simpa using List.find?_some hr
    subst hkey
    exact find?_eq_some_of_mem h (hperm.mem_iff.2 (List.mem_of_find?_eq_some hr))

/-- Storing under a key that is present changes the entry of that key and no other. -/
theorem upsert_of_mem {l : List α} (hnodup : (l.map key).Nodup) {entry : α} (h : key entry ∈ l.map key) :
    upsert key entry l = l.map fun a => if key a = key entry then entry else a := by
  induction l with
  | nil => cases h
  | cons head tail ih =>
    rw [List.map_cons, List.nodup_cons] at hnodup
    rw [List.map_cons, upsert]
    by_cases hhead : key head = key entry
    · have others : ∀ a ∈ tail, (if key a = key entry then entry else a) = a := by
        intro a ha
        rw [if_neg]
        intro hkey
        exact hnodup.1 (hhead.trans hkey.symm ▸ List.mem_map_of_mem ha)
      rw [if_pos hhead, if_pos hhead, List.map_congr_left others, List.map_id']
    · have htail : key entry ∈ tail.map key := (List.mem_cons.1 h).resolve_left (Ne.symm hhead)
      rw [if_neg hhead, if_neg hhead, ih hnodup.2 htail]

namespace KeyedList

/-- The entries are what is found under the keys. -/
theorem toList_eq_filterMap (l : KeyedList key) : l.toList = l.keys.filterMap l.get? := by
  have found : ∀ a ∈ l.toList, (l.get? ∘ key) a = some a := fun a ha => find?_eq_some_of_mem l.keys_nodup ha
  rw [keys, List.filterMap_map, List.filterMap_congr found, List.filterMap_some]

/-! ## Histories -/

/-- The entry that was stored last under a key. -/
def last? (key : α → κ) (history : List α) (k : κ) : Option α := history.reverse.find? fun a => key a = k

theorem last?_concat (history : List α) (entry : α) (k : κ) :
    last? key (history ++ [entry]) k = if key entry = k then some entry else last? key history k := by
  unfold last?
  rw [List.reverse_concat, List.find?_cons]
  by_cases h : key entry = k <;> simp [h]

theorem ofList_concat (history : List α) (entry : α) :
    (ofList (history ++ [entry]) : KeyedList key) = (ofList history).put entry := by
  unfold ofList putAll
  rw [List.foldl_concat]

theorem keys_ofList (history : List α) : (ofList history : KeyedList key).keys = (history.map key).eraseDups := by
  induction history using List.reverseRecOn with
  | nil => rfl
  | append_singleton history entry ih =>
    rw [ofList_concat, keys_put, ih, List.map_append, List.map_singleton, eraseDups_concat]
    simp only [List.mem_eraseDups]

theorem get?_ofList (history : List α) (k : κ) :
    (ofList history : KeyedList key).get? k = last? key history k := by
  induction history using List.reverseRecOn with
  | nil => rfl
  | append_singleton history entry ih => rw [ofList_concat, get?_put, ih, last?_concat]

/-- Keys in the order in which they were first stored, and under each the entry that was stored last. -/
theorem toList_ofList (history : List α) :
    (ofList history : KeyedList key).toList = (history.map key).eraseDups.filterMap (last? key history) := by
  have hget : (ofList history : KeyedList key).get? = last? key history := funext (get?_ofList history)
  rw [toList_eq_filterMap, keys_ofList, hget]

theorem size_ofList (history : List α) :
    (ofList history : KeyedList key).size = (history.map key).toFinset.card := by
  have hkeys : (ofList history : KeyedList key).keys.toFinset = (history.map key).toFinset := by
    ext k
    rw [keys_ofList, List.mem_toFinset, List.mem_toFinset, List.mem_eraseDups]
  have nodup : (ofList history : KeyedList key).keys.Nodup := (ofList history).keys_nodup
  rw [← hkeys, List.toFinset_card_of_nodup nodup, keys, List.length_map]
  rfl

/-! ## Storing what is stored -/

theorem toList_putAll_of_nodup (l : KeyedList key) (entries : List α) (h : ((l.toList ++ entries).map key).Nodup) :
    (l.putAll entries).toList = l.toList ++ entries := by
  induction entries generalizing l with
  | nil => exact (List.append_nil _).symm
  | cons entry entries ih =>
    have fresh : key entry ∉ l.toList.map key := by
      rw [List.map_append, List.nodup_append] at h
      exact fun hmem => h.2.2 _ hmem _ List.mem_cons_self rfl
    have stored : (l.put entry).toList = l.toList ++ [entry] := upsert_of_not_mem key entry l.toList fresh
    have step : (l.putAll (entry :: entries)).toList = ((l.put entry).putAll entries).toList := rfl
    rw [step, ih (l.put entry) (by rwa [stored, ← List.append_cons]), stored, ← List.append_cons]

theorem ofList_toList (l : KeyedList key) : ofList l.toList = l :=
  ext_toList (toList_putAll_of_nodup {} l.toList l.keys_nodup)

theorem eraseDups_keys (l : KeyedList key) : l.keys.eraseDups = l.keys := by
  have stored : (ofList l.toList : KeyedList key).keys = l.keys.eraseDups := keys_ofList l.toList
  rw [← stored, ofList_toList]

end KeyedList

end SqlBuilder

import SqlBuilder.Json.Datum

/-!
# Objects without repeated keys

No object has a key twice, at any depth of a document that is built from members or serialized from data.

* `Json.WellFormed` : documents whose objects have no key twice.
* `Json.wellFormed_ofMembers` : an object from members, whatever keys are repeated among them.
* `Datum.wellFormed_of_toJson` : whatever is serialized.
-/

namespace SqlBuilder

set_option autoImplicit false

theorem exists_of_bind_eq_ok {ε α β : Type} {x : Except ε α} {f : α → Except ε β} {b : β} (h : x >>= f = .ok b) :
    ∃ a, x = .ok a ∧ f a = .ok b := by
  cases x with
  | error e => cases h
  | ok a => exact ⟨a, rfl, h⟩

theorem mem_of_mem_upsert {α κ : Type} [DecidableEq κ] {key : α → κ} {entry a : α} {l : List α}
    (h : a ∈ upsert key entry l) : a = entry ∨ a ∈ l := by
  induction l with
  | nil => exact .inl (List.mem_singleton.1 h)
  | cons head tail ih =>
    rw [upsert] at h
    split at h
    · exact (List.mem_cons.1 h).imp id (List.mem_cons_of_mem head)
    · obtain rfl | htail := List.mem_cons.1 h
      · exact .inr List.mem_cons_self
      · exact (ih htail).imp id (List.mem_cons_of_mem head)

/-! ## Documents -/

namespace Json

/-- No object has a key twice, at any depth. -/
inductive WellFormed : Json → Prop
  | null : WellFormed null
  | bool (b : Bool) : WellFormed (bool b)
  | number (n : Number) : WellFormed (number n)
  | string (s : String) : WellFormed (string s)
  | array {items : List Json} (inside : ∀ item ∈ items, WellFormed item) : WellFormed (array items)
  | object {members : List (String × Json)} (distinct : (members.map Prod.fst).Nodup)
      (inside : ∀ member ∈ members, WellFormed member.2) : WellFormed (object members)

theorem WellFormed.distinct {members : List (String × Json)} (h : WellFormed (.object members)) :
    (members.map Prod.fst).Nodup := by
  cases h with
  | object distinct inside => exact distinct

theorem WellFormed.item {items : List Json} (h : WellFormed (.array items)) {item : Json} (hitem : item ∈ items) :
    WellFormed item := by
  cases h with
  | array inside => exact inside item hitem

/-- Storing members one after the other keeps the keys apart and brings in no other value. -/
theorem wellFormed_foldl_upsert {done : List (String × Json)} (hdone : WellFormed (.object done))
    {members : List (String × Json)} (inside : ∀ member ∈ members, WellFormed member.2) :
    WellFormed (.object (members.foldl (fun done member => upsert Prod.fst member done) done)) := by
  induction members generalizing done with
  | nil => exact hdone
  | cons member members ih =>
    rw [List.foldl_cons]
    apply ih
    · cases hdone with
      | object distinct stored =>
        refine .object (nodup_keys_upsert Prod.fst member done distinct) fun other hother => ?_
        obtain rfl | hother := mem_of_mem_upsert hother
        · exact inside other List.mem_cons_self
        · exact stored other hother
    · exact fun other hother => inside other (List.mem_cons_of_mem member hother)

theorem wellFormed_ofMembers {members : List (String × Json)} (inside : ∀ member ∈ members, WellFormed member.2) :
    WellFormed (ofMembers members) :=
  wellFormed_foldl_upsert (.object (by simp) (by simp)) inside

theorem wellFormed_ofFloat (x : Float) : WellFormed (ofFloat x) := by
  rw [ofFloat]
  split
  · exact .number _
  · exact .null

end Json

/-! ## Serialized data -/

namespace Datum

open Json (WellFormed)

mutual

/-- Whatever is serialized has no object with a key twice. -/
theorem wellFormed_of_toJson : ∀ {d : Datum} {document : Json}, d.toJson = .ok document → WellFormed document
  | .null, _, h => by cases h; exact .null
  | .bool b, _, h => by cases h; exact .bool b
  | .int n, _, h => by
    rw [toJson] at h
    split at h
    · next found =>
      cases h
      obtain ⟨number, -, rfl⟩ := Option.map_eq_some_iff.1 found
      exact .number number
    · cases h
  | .float x, _, h => by cases h; exact Json.wellFormed_ofFloat x
  | .single x, _, h => by cases h; exact Json.wellFormed_ofFloat x.toFloat
  | .text s, _, h => by cases h; exact .string s
  | .bytes bs, _, h => by
    cases h
    refine .array fun item hitem => ?_
    obtain ⟨b, -, rfl⟩ := List.mem_map.1 hitem
    exact .number _
  | .present d, _, h => wellFormed_of_toJson (d := d) h
  | .list items, _, h => by
    obtain ⟨documents, hitems, ⟨⟩⟩ := exists_of_bind_eq_ok h
    exact .array (wellFormed_of_toJsonItems hitems)
  | .map entries, _, h => by
    obtain ⟨members, hentries, ⟨⟩⟩ := exists_of_bind_eq_ok h
    exact Json.wellFormed_ofMembers (wellFormed_of_toJsonMembers hentries)
  | .refusing _, _, h => by cases h

theorem wellFormed_of_toJsonItems : ∀ {items : List Datum} {documents : List Json},
    toJsonItems items = .ok documents → ∀ document ∈ documents, WellFormed document
  | [], _, h => by cases h; simp
  | item :: items, _, h => by
    obtain ⟨first, hitem, h⟩ := exists_of_bind_eq_ok h
    obtain ⟨rest, hitems, ⟨⟩⟩ := exists_of_bind_eq_ok h
    exact List.forall_mem_cons.2 ⟨wellFormed_of_toJson hitem, wellFormed_of_toJsonItems hitems⟩

theorem wellFormed_of_toJsonMembers : ∀ {entries : List (Datum × Datum)} {members : List (String × Json)},
    toJsonMembers entries = .ok members → ∀ member ∈ members, WellFormed member.2
  | [], _, h => by cases h; simp
  | (key, value) :: entries, _, h => by
    obtain ⟨name, -, h⟩ := exists_of_bind_eq_ok h
    obtain ⟨document, hvalue, h⟩ := exists_of_bind_eq_ok h
    obtain ⟨rest, hentries, ⟨⟩⟩ := exists_of_bind_eq_ok h
    exact List.forall_mem_cons.2 ⟨wellFormed_of_toJson hvalue, wellFormed_of_toJsonMembers hentries⟩

end

end Datum

end SqlBuilder

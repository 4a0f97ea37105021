import SqlBuilder.Proofs.Text.Solid
import SqlBuilder.Sql.Assembly

/-!
# One step of an assembly

* `Assembly.gap` : the space, if any, that is put before a fragment.
* `Assembly.append_of_eq`, `Assembly.append_of_ne` : what adding an empty fragment, and any other, does.
* `solid_assemble` : assembling adds and drops blank characters only.
-/

namespace SqlBuilder.Sql

set_option autoImplicit false

namespace Assembly

variable {a : Assembly} {f : Fragment}

def gap (a : Assembly) (f : Fragment) : String :=
  if a.wantsSpace f && !endsWithSpace a.text && !startsWithSpace f.text then " " else ""

theorem append_of_eq (hf : f.text = "") : a.append f = a := by
  rw [append, if_pos hf]

theorem append_of_ne (hf : f.text ≠ "") :
    a.append f = { text := a.text ++ a.gap f ++ f.text, owesSpace := f.spacing = .padded } := by
  rw [append, if_neg hf]
  rfl

theorem appendAll_cons (fragments : List Fragment) :
    a.appendAll (f :: fragments) = (a.append f).appendAll fragments := rfl

theorem appendAll_append (fragments more : List Fragment) :
    a.appendAll (fragments ++ more) = (a.appendAll fragments).appendAll more := by
  unfold appendAll
  rw [List.foldl_append]

/-! ## What is not blank -/

theorem solid_append : Text.solid (a.append f).text = Text.solid a.text ++ Text.solid f.text := by
  by_cases hf : f.text = ""
  · have nothing : Text.solid "" = [] := rfl
    rw [append_of_eq hf, hf, nothing, List.append_nil]
  · have blank_gap : Text.solid (a.gap f) = [] := by
      unfold gap
      split <;> decide
    rw [append_of_ne hf, Text.solid_append, Text.solid_append, blank_gap, List.append_nil]

theorem solid_appendAll (fragments : List Fragment) :
    Text.solid (a.appendAll fragments).text =
      Text.solid a.text ++ fragments.flatMap fun f => Text.solid f.text := by
  induction fragments generalizing a with
  | nil => exact (List.append_nil _).symm
  | cons f fragments ih => rw [appendAll_cons, ih, solid_append, List.flatMap_cons, List.append_assoc]

end Assembly

theorem solid_assemble (fragments : List Fragment) :
    Text.solid (assemble fragments) = fragments.flatMap fun f => Text.solid f.text := by
  rw [assemble, Assembly.finish, Text.solid_trim, Assembly.solid_appendAll]
  rfl

end SqlBuilder.Sql

import SqlBuilder.Proofs.Sql.Assembly
import SqlBuilder.Proofs.Sql.Compilation
import SqlBuilder.Proofs.Sql.Interchange

/-!
# Cells cannot change the SQL around them

When two statements differ only in what stands in quoted cells of their parameters, their texts differ only
inside literals.

* `Assembly.SameOutline` : two assemblies with texts of the same outline. Adding a fragment to both keeps it
  (`Assembly.SameOutline.append`), and so does adding many (`Assembly.SameOutline.appendAll`).
* `compile_separates` : such statements fail alike, or their texts have the same skeleton.
-/

namespace SqlBuilder

set_option autoImplicit false

namespace Sql

/-! ## Two assemblies side by side -/

namespace Assembly

/-- Two assemblies that look the same to what follows, with texts that differ inside literals only. -/
structure SameOutline (a b : Assembly) : Prop where
  text : Text.SameOutline a.text.toList b.text.toList
  owesSpace : a.owesSpace = b.owesSpace

variable {a b : Assembly}

theorem SameOutline.gap_eq (h : SameOutline a b) (f : Fragment) : a.gap f = b.gap f := by
  have nonempty : (a.text != "") = (b.text != "") := by
    have hiff : a.text = "" ↔ b.text = "" := by
      rw [← String.toList_eq_nil_iff, ← String.toList_eq_nil_iff, h.text.eq_nil_iff]
    rw [Bool.eq_iff_iff, bne_iff_ne, bne_iff_ne]
    exact not_congr hiff
  have wants : a.wantsSpace f = b.wantsSpace f := by
    rw [wantsSpace, wantsSpace, h.owesSpace, nonempty]
  rw [gap, gap, wants, endsWithSpace, endsWithSpace, h.text.getLast?_eq]

theorem SameOutline.append (h : SameOutline a b) (f : Fragment) : SameOutline (a.append f) (b.append f) := by
  by_cases hf : f.text = ""
  · rw [append_of_eq hf, append_of_eq hf]
    exact h
  · rw [append_of_ne hf, append_of_ne hf, h.gap_eq f]
    refine ⟨?_, rfl⟩
    show Text.SameOutline (a.text ++ b.gap f ++ f.text).toList (b.text ++ b.gap f ++ f.text).toList
    simp only [String.toList_append, List.append_assoc]
    exact h.text.append _

theorem SameOutline.appendAll (h : SameOutline a b) (fragments : List Fragment) :
    SameOutline (a.appendAll fragments) (b.appendAll fragments) := by
  induction fragments generalizing a b with
  | nil => exact h
  | cons f fragments ih => exact ih (h.append f)

/-- The point where the two statements part: one text so far, followed by two texts that are alike. -/
theorem sameOutline_append {p q : String} (hquote : '\'' ∉ a.text.toList) (h : AlikeText p q) (spacing : Spacing) :
    SameOutline (a.append ⟨p, spacing⟩) (a.append ⟨q, spacing⟩) := by
  have hempty : p = "" ↔ q = "" := by
    rw [← String.toList_eq_nil_iff, ← String.toList_eq_nil_iff, Text.Alike.eq_nil_iff h]
  by_cases hp : p = ""
  · rw [append_of_eq hp, append_of_eq (hempty.1 hp)]
    exact ⟨.refl _, rfl⟩
  · have gap_eq : a.gap ⟨p, spacing⟩ = a.gap ⟨q, spacing⟩ := by
      have starts : startsWithSpace p = startsWithSpace q := by
        rw [startsWithSpace, startsWithSpace, Text.Alike.head?_eq h]
      have wants : a.wantsSpace ⟨p, spacing⟩ = a.wantsSpace ⟨q, spacing⟩ := rfl
      rw [gap, gap, wants, starts]
    have gap_quote : '\'' ∉ (a.gap ⟨q, spacing⟩).toList := by
      unfold gap
      split <;> decide
    rw [append_of_ne hp, append_of_ne (fun e => hp (hempty.2 e)), gap_eq]
    refine ⟨.of_alike ?_, rfl⟩
    exact ((AlikeText.refl hquote).append (.refl gap_quote)).append h

theorem quote_not_mem_appendAll {fragments : List Fragment} (ha : '\'' ∉ a.text.toList)
    (h : ∀ f ∈ fragments, '\'' ∉ f.text.toList) : '\'' ∉ (a.appendAll fragments).text.toList := by
  induction fragments generalizing a with
  | nil => exact ha
  | cons f fragments ih =>
    refine ih ?_ fun g hg => h g (List.mem_cons_of_mem f hg)
    by_cases hf : f.text = ""
    · rwa [append_of_eq hf]
    · have hgap : '\'' ∉ (a.gap f).toList := by
        unfold gap
        split <;> decide
      rw [append_of_ne hf, String.toList_append, String.toList_append, List.mem_append, List.mem_append]
      rintro ((h' | h') | h')
      · exact ha h'
      · exact hgap h'
      · exact h f List.mem_cons_self h'

end Assembly

/-- One fragment of a statement is replaced by one that is alike. -/
theorem assemble_sameOutline {head rest : List Fragment} {p q : String} (hhead : ∀ f ∈ head, '\'' ∉ f.text.toList)
    (h : AlikeText p q) : Text.SameOutline (assemble (head ++ ⟨p, .spaced⟩ :: rest)).toList
      (assemble (head ++ ⟨q, .spaced⟩ :: rest)).toList := by
  have before : '\'' ∉ (Assembly.appendAll {} head).text.toList :=
    Assembly.quote_not_mem_appendAll (by decide) hhead
  have whole := (Assembly.sameOutline_append before h .spaced).appendAll rest
  unfold assemble Assembly.finish Text.trim
  rw [String.toList_ofList, String.toList_ofList, Assembly.appendAll_append, Assembly.appendAll_append]
  exact whole.text.trimBlanks

end Sql

/-! ## Two statements side by side -/

/-- Clauses that differ in their parameters at most. -/
structure Clauses.AgreeOutsideParams (first second : Clauses) : Prop where
  verb : first.verb? = second.verb?
  table : first.table? = second.table?
  filter : first.filter? = second.filter?
  customs : first.customs = second.customs
  order : first.order? = second.order?
  limit : first.limit? = second.limit?

namespace Sql

variable {first second : Clauses}

/-- The fragments of a statement whose parameters come after its table. -/
theorem fragmentsWith_eq {clauses : Clauses} {verb : Verb} (hverb : clauses.verb? = some verb)
    (hselect : verb ≠ .select) (text : String) :
    fragmentsWith clauses (some text) = (spaced (some verb.keyword) ++ spaced clauses.table?) ++ ⟨text, .spaced⟩ ::
      (spaced (clauses.filter?.bind conditionClause?) ++ clauses.customs.map customFragment ++
        spaced clauses.order? ++ spaced clauses.limit?) := by
  have hne : clauses.verb? ≠ some .select := by
    rw [hverb]
    exact fun e => hselect (Option.some.inj e)
  rw [fragmentsWith, target, if_neg hne, hverb]
  simp [spaced]

theorem quote_not_mem_keyword (verb : Verb) : '\'' ∉ verb.keyword.toList := by
  cases verb <;> decide

theorem assemble_fragmentsWith_sameOutline (same : first.AgreeOutsideParams second) {verb : Verb}
    (hverb : first.verb? = some verb) (hselect : verb ≠ .select)
    (htable : ∀ name, first.table? = some name → '\'' ∉ name.toList) {p q : String} (h : AlikeText p q) :
    Text.SameOutline (assemble (fragmentsWith first (some p))).toList
      (assemble (fragmentsWith second (some q))).toList := by
  have hhead : ∀ f ∈ spaced (some verb.keyword) ++ spaced first.table?, '\'' ∉ f.text.toList := by
    intro f hf
    rw [List.mem_append] at hf
    obtain hf | hf := hf
    · rw [List.mem_singleton.1 hf]
      exact quote_not_mem_keyword verb
    · cases hname : first.table? with
      | none =>
        rw [hname] at hf
        cases hf
      | some name =>
        rw [hname] at hf
        rw [List.mem_singleton.1 hf]
        exact htable name hname
  rw [fragmentsWith_eq hverb hselect, fragmentsWith_eq (same.verb ▸ hverb) hselect, ← same.table, ← same.filter,
    ← same.customs, ← same.order, ← same.limit]
  exact assemble_sameOutline hhead h

/-- The parameters of both statements: the same fault, or texts that are alike. -/
theorem parameters_agree {p q : Payload} {verb : Verb} (hverb : verb = .insert ∨ verb = .update ∧ p.shape = .map)
    (hcells : Payload.Interchangeable p q) (hcolumns : ∀ column ∈ p.columns, '\'' ∉ column.toList) :
    Agree AlikeText (parameters (some verb) p) (parameters (some verb) q) := by
  obtain rfl | ⟨rfl, hshape⟩ := hverb
  · exact insertParameters_agree hcells hcolumns
  · cases hcells with
    | map h => exact .ok (updateParameters_alike h hcolumns)
    | rows _ => cases hshape
    | list _ => cases hshape

end Sql

/-- Whatever stands in the quoted cells of an insert or of the assignments of an update, the rest of the
statement is the same: both are refused for the same reason, or their texts have the same skeleton and their
parameters the same number of literals. -/
theorem compile_separates (policy : CompilePolicy) (first second : Clauses) (p q : Payload)
    (same : first.AgreeOutsideParams second) (hp : first.params? = some p) (hq : second.params? = some q)
    (hverb : first.verb? = some .insert ∨ first.verb? = some .update ∧ p.shape = .map)
    (hcells : Payload.Interchangeable p q)
    (htable : ∀ name, first.table? = some name → '\'' ∉ name.toList)
    (hcolumns : ∀ column ∈ p.columns, '\'' ∉ column.toList) :
    (∃ e, compile policy first = .error e ∧ compile policy second = .error e) ∨
    ∃ s t f g, compile policy first = .ok s ∧ compile policy second = .ok t ∧
      Sql.declaredParameters first = .ok (some f) ∧ Sql.declaredParameters second = .ok (some g) ∧
      Text.skeleton s = Text.skeleton t ∧ Text.literalCount f = Text.literalCount g := by
  obtain ⟨verb, hfirst, hverb⟩ :
      ∃ verb, first.verb? = some verb ∧ (verb = .insert ∨ verb = .update ∧ p.shape = .map) := by
    obtain h | ⟨h, hshape⟩ := hverb
    · exact ⟨.insert, h, .inl rfl⟩
    · exact ⟨.update, h, .inr ⟨rfl, hshape⟩⟩
  have hsecond : second.verb? = some verb := same.verb ▸ hfirst
  have hselect : verb ≠ .select := by
    obtain rfl | ⟨rfl, -⟩ := hverb <;> decide
  have admitted : policy.Admits first := fun _ => by rw [hfirst]; rfl
  have admitted' : policy.Admits second := fun _ => by rw [hsecond]; rfl
  have hparams := Sql.parameters_agree hverb hcells hcolumns
  have hdeclared : Sql.declaredParameters first = (Sql.parameters (some verb) p).map some := by
    rw [Sql.declaredParameters, hp, hfirst]
  have hdeclared' : Sql.declaredParameters second = (Sql.parameters (some verb) q).map some := by
    rw [Sql.declaredParameters, hq, hsecond]
  rw [compile_eq_of_admits admitted, compile_eq_of_admits admitted', hdeclared, hdeclared']
  generalize Sql.parameters (some verb) p = x at hparams
  generalize Sql.parameters (some verb) q = y at hparams
  cases hparams with
  | error fault => exact .inl ⟨.malformedInsert fault, rfl, rfl⟩
  | @ok f g alike =>
    have outline := Sql.assemble_fragmentsWith_sameOutline same hfirst hselect htable alike
    refine .inr ⟨_, _, f, g, rfl, rfl, rfl, rfl, ?_, ?_⟩
    · rw [Text.skeleton, Text.skeleton, outline.skeletonFrom_eq]
    · exact Text.Alike.literalsFrom_eq alike

/-- An update of a name and a number, with a condition and an open quote in a custom fragment. -/
def renameTo (name : Value) : Clauses :=
  .ofList [.verb .update, .table "t ", .params (.map (.ofEntries [("name", name), ("n", .int 7)])),
    .filter (.text "id = '1'"), .custom ⟨"note", "-- it's ", false⟩, .limit "LIMIT 1"]

theorem compile_separates_rename :
    (∃ e, compile .strict (renameTo (.text "x', admin = 'yes")) = .error e ∧
      compile .strict (renameTo (.json (.string "\\"))) = .error e) ∨
    ∃ s t f g, compile .strict (renameTo (.text "x', admin = 'yes")) = .ok s ∧
      compile .strict (renameTo (.json (.string "\\"))) = .ok t ∧
      Sql.declaredParameters (renameTo (.text "x', admin = 'yes")) = .ok (some f) ∧
      Sql.declaredParameters (renameTo (.json (.string "\\"))) = .ok (some g) ∧
      Text.skeleton s = Text.skeleton t ∧ Text.literalCount f = Text.literalCount g := by
  apply compile_separates .strict _ _ (.map (.ofEntries [("name", .text "x', admin = 'yes"), ("n", .int 7)]))
    (.map (.ofEntries [("name", .json (.string "\\")), ("n", .int 7)]))
  · exact ⟨rfl, rfl, rfl, rfl, rfl, rfl⟩
  · rfl
  · rfl
  · exact .inr ⟨rfl, rfl⟩
  · exact .map (.cons ⟨rfl, .quoted rfl rfl⟩ (.cons ⟨rfl, .same rfl⟩ .nil))
  · rintro name ⟨⟩
    decide
  · decide

end SqlBuilder

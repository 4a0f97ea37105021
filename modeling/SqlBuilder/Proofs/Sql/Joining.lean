import Mathlib.Data.List.Basic
import SqlBuilder.Proofs.Sql.Assembly
import SqlBuilder.Proofs.Sql.Compilation

/-!
# Assembling is joining pairwise

An assembly carries the whole text so far and a debt of a space from one fragment to the next. What it puts
between two fragments can nevertheless be told from these two alone, once the empty ones are dropped.

* `between`, `joined` : the space between two fragments, and fragments joined with these spaces.
* `Assembly.EndsIn` : what an assembly remembers of the last fragment. Adding a fragment keeps it
  (`Assembly.EndsIn.append`), and adding many joins them (`Assembly.EndsIn.text_appendAll`).
* `compile_joins` : the text of a statement is its visible fragments, joined and trimmed.
-/

namespace SqlBuilder

set_option autoImplicit false

namespace Sql

/-! ## Joining -/

/-- The fragment leaves a trace. -/
def Fragment.isVisible (f : Fragment) : Bool := f.text != ""

theorem Fragment.isVisible_iff {f : Fragment} : f.isVisible = true ↔ f.text ≠ "" := bne_iff_ne

/-- What stands between two fragments. -/
def between (f g : Fragment) : String :=
  if (g.spacing ≠ .tight ∨ f.spacing = .padded) ∧ endsWithSpace f.text = false ∧ startsWithSpace g.text = false
  then " " else ""

/-- Fragments that follow a fragment, each with what stands before it. -/
def joinedAfter (f : Fragment) : List Fragment → String
  | [] => ""
  | g :: rest => between f g ++ g.text ++ joinedAfter g rest

/-- Fragments with what stands between them. -/
def joined : List Fragment → String
  | [] => ""
  | f :: rest => f.text ++ joinedAfter f rest

theorem joinedAfter_append (e f g : Fragment) (head rest : List Fragment) :
    joinedAfter e (head ++ f :: g :: rest) = joinedAfter e (head ++ [f]) ++ between f g ++ joined (g :: rest) := by
  induction head generalizing e with
  | nil => simp only [List.nil_append, joinedAfter, joined, String.append_assoc, String.append_empty]
  | cons h head ih =>
    rw [List.cons_append, List.cons_append, joinedAfter, joinedAfter, ih]
    simp only [String.append_assoc]

/-- Between two neighbours stands what these two ask for, whatever comes before and after. -/
theorem joined_append (f g : Fragment) (head rest : List Fragment) :
    joined (head ++ f :: g :: rest) = joined (head ++ [f]) ++ between f g ++ joined (g :: rest) := by
  cases head with
  | nil => simp only [List.nil_append, joined, joinedAfter, String.append_assoc, String.append_empty]
  | cons e head =>
    rw [List.cons_append, List.cons_append, joined, joined, joinedAfter_append]
    simp only [String.append_assoc]

theorem endsWithSpace_append (s : String) {t : String} (ht : t ≠ "") : endsWithSpace (s ++ t) = endsWithSpace t := by
  have nonempty : t.toList ≠ [] := fun e => ht (String.toList_eq_nil_iff.1 e)
  rw [endsWithSpace, endsWithSpace, String.toList_append, List.getLast?_append_of_ne_nil _ nonempty]

theorem startsWithSpace_append {s : String} (hs : s ≠ "") (t : String) :
    startsWithSpace (s ++ t) = startsWithSpace s := by
  have nonempty : s.toList ≠ [] := fun e => hs (String.toList_eq_nil_iff.1 e)
  rw [startsWithSpace, startsWithSpace, String.toList_append, List.head?_append_of_ne_nil _ nonempty]

theorem exists_joined_eq (head : List Fragment) (f : Fragment) :
    ∃ before, joined (head ++ [f]) = before ++ f.text := by
  have single : joined [f] = f.text := String.append_empty
  rcases List.eq_nil_or_concat head with rfl | ⟨init, e, rfl⟩
  · exact ⟨"", single.trans String.empty_append.symm⟩
  · refine ⟨joined (init ++ [e]) ++ between e f, ?_⟩
    rw [List.concat_eq_append, List.append_assoc, List.singleton_append, joined_append, single]

theorem endsWithSpace_joined (head : List Fragment) {f : Fragment} (hf : f.isVisible = true) :
    endsWithSpace (joined (head ++ [f])) = endsWithSpace f.text := by
  obtain ⟨before, htext⟩ := exists_joined_eq head f
  rw [htext, endsWithSpace_append before (Fragment.isVisible_iff.1 hf)]

theorem startsWithSpace_joined {g : Fragment} (hg : g.isVisible = true) (rest : List Fragment) :
    startsWithSpace (joined (g :: rest)) = startsWithSpace g.text :=
  startsWithSpace_append (Fragment.isVisible_iff.1 hg) _

theorem between_eq_empty {f g : Fragment} (hg : g.spacing = .tight) (hf : f.spacing ≠ .padded) : between f g = "" := by
  rw [between, if_neg]
  rintro ⟨asked | asked, -⟩
  · exact asked hg
  · exact hf asked

theorem between_ne_empty {f g : Fragment} (h : between f g ≠ "") :
    between f g = " " ∧ endsWithSpace f.text = false ∧ startsWithSpace g.text = false := by
  rw [between] at h ⊢
  by_cases asked : (g.spacing ≠ .tight ∨ f.spacing = .padded) ∧ endsWithSpace f.text = false ∧
      startsWithSpace g.text = false
  · exact ⟨if_pos asked, asked.2⟩
  · exact absurd (if_neg asked) h

/-! ## What an assembly remembers -/

namespace Assembly

variable {a : Assembly} {f g : Fragment}

/-- An assembly whose last fragment is `f`. -/
structure EndsIn (a : Assembly) (f : Fragment) : Prop where
  visible : f.text ≠ ""
  text : ∃ before, a.text = before ++ f.text
  owesSpace : a.owesSpace = decide (f.spacing = .padded)

theorem EndsIn.text_ne (h : EndsIn a f) : a.text ≠ "" := by
  obtain ⟨before, htext⟩ := h.text
  rw [htext]
  intro e
  exact h.visible (String.append_eq_empty_iff.1 e).2

theorem EndsIn.endsWithSpace_eq (h : EndsIn a f) : endsWithSpace a.text = endsWithSpace f.text := by
  obtain ⟨before, htext⟩ := h.text
  rw [htext, endsWithSpace_append before h.visible]

theorem EndsIn.gap_eq (h : EndsIn a f) : a.gap g = between f g := by
  have wants : a.wantsSpace g = true ↔ g.spacing ≠ .tight ∨ f.spacing = .padded := by
    have nonempty : (a.text != "") = true := bne_iff_ne.2 h.text_ne
    rw [wantsSpace, h.owesSpace, nonempty]
    cases g.spacing <;> simp
  rw [gap, between, h.endsWithSpace_eq]
  simp only [Bool.and_eq_true, Bool.not_eq_true', wants, and_assoc]

theorem EndsIn.append (h : EndsIn a f) (hg : g.text ≠ "") :
    (a.append g).text = a.text ++ between f g ++ g.text ∧ EndsIn (a.append g) g := by
  rw [append_of_ne hg, h.gap_eq]
  exact ⟨rfl, hg, ⟨_, rfl⟩, rfl⟩

theorem endsIn_append_empty (hf : f.text ≠ "") : (append {} f).text = f.text ∧ EndsIn (append {} f) f := by
  have nothing : gap {} f = "" := by
    have refused : wantsSpace {} f = false := by
      rw [wantsSpace]
      cases f.spacing <;> rfl
    rw [gap, refused]
    rfl
  rw [append_of_ne hf, nothing]
  exact ⟨by simp only [String.append_empty, String.empty_append], hf, ⟨_, rfl⟩, rfl⟩

/-- Empty fragments leave no trace. -/
theorem appendAll_visible (a : Assembly) (fragments : List Fragment) :
    a.appendAll (fragments.filter Fragment.isVisible) = a.appendAll fragments := by
  induction fragments generalizing a with
  | nil => rfl
  | cons f fragments ih =>
    by_cases hf : f.text = ""
    · have hidden : ¬ f.isVisible = true := fun e => Fragment.isVisible_iff.1 e hf
      rw [List.filter_cons_of_neg hidden, appendAll_cons, append_of_eq hf, ih]
    · rw [List.filter_cons_of_pos (Fragment.isVisible_iff.2 hf), appendAll_cons, appendAll_cons, ih]

theorem EndsIn.text_appendAll (h : EndsIn a f) {fragments : List Fragment}
    (hvisible : ∀ g ∈ fragments, g.isVisible = true) :
    (a.appendAll fragments).text = a.text ++ joinedAfter f fragments := by
  -- `EndsIn` passes from one last fragment to the next, and names the pair that decides about the gap.
  induction fragments generalizing a f with
  | nil => exact String.append_empty.symm
  | cons g fragments ih =>
    obtain ⟨htext, hnext⟩ := h.append (Fragment.isVisible_iff.1 (hvisible g List.mem_cons_self))
    rw [appendAll_cons, ih hnext fun g hg => hvisible g (List.mem_cons_of_mem _ hg), htext, joinedAfter]
    simp only [String.append_assoc]

theorem text_appendAll {fragments : List Fragment} (hvisible : ∀ f ∈ fragments, f.isVisible = true) :
    (appendAll {} fragments).text = joined fragments := by
  cases fragments with
  | nil => rfl
  | cons f fragments =>
    obtain ⟨htext, hnext⟩ := endsIn_append_empty (Fragment.isVisible_iff.1 (hvisible f List.mem_cons_self))
    rw [appendAll_cons, hnext.text_appendAll fun g hg => hvisible g (List.mem_cons_of_mem _ hg), htext, joined]

end Assembly

/-- The text of fragments: the visible ones, joined and trimmed. -/
theorem assemble_eq (fragments : List Fragment) :
    assemble fragments = Text.trim (joined (fragments.filter Fragment.isVisible)) := by
  have hvisible : ∀ f ∈ fragments.filter Fragment.isVisible, f.isVisible = true :=
    fun f hf => (List.mem_filter.1 hf).2
  rw [assemble, Assembly.finish, ← Assembly.appendAll_visible, Assembly.text_appendAll hvisible]

/-! ## The fragments of a statement -/

/-- A text that is absent and a text that is empty show the same. -/
theorem filter_spaced {text other : Option String} (h : text.getD "" = other.getD "") :
    (spaced text).filter Fragment.isVisible = (spaced other).filter Fragment.isVisible := by
  have plain : ∀ t : Option String,
      (spaced t).filter Fragment.isVisible = (spaced (some (t.getD ""))).filter Fragment.isVisible := by
    intro t
    cases t <;> rfl
  rw [plain text, plain other, h]

theorem filter_customs (customs : List Custom) : (customs.map customFragment).filter Fragment.isVisible =
    (customs.filter fun c => c.text != "").map customFragment := by
  rw [List.filter_map]
  rfl

end Sql

/-- Clauses of which the same shows: they differ at most in fragments that are empty. -/
structure Clauses.AgreeVisibly (first second : Clauses) : Prop where
  verb : first.verb? = second.verb?
  table : first.table?.getD "" = second.table?.getD ""
  parameters : (Sql.declaredParameters first).map (Option.getD · "") =
    (Sql.declaredParameters second).map (Option.getD · "")
  condition : (first.filter?.bind Sql.conditionClause?).getD "" = (second.filter?.bind Sql.conditionClause?).getD ""
  customs : (first.customs.filter fun c => c.text != "") = second.customs.filter fun c => c.text != ""
  order : first.order?.getD "" = second.order?.getD ""
  limit : first.limit?.getD "" = second.limit?.getD ""

namespace Clauses

variable {first second : Clauses}

theorem AgreeVisibly.filter_fragmentsWith (h : AgreeVisibly first second) {p q : Option String}
    (hparameters : p.getD "" = q.getD "") :
    (Sql.fragmentsWith first p).filter Sql.Fragment.isVisible =
      (Sql.fragmentsWith second q).filter Sql.Fragment.isVisible := by
  have target : (Sql.target first.verb? first.table? p).filter Sql.Fragment.isVisible =
      (Sql.target second.verb? second.table? q).filter Sql.Fragment.isVisible := by
    rw [Sql.target, Sql.target, h.verb]
    split
    · rw [List.filter_append, List.filter_append, Sql.filter_spaced h.table, Sql.filter_spaced hparameters]
    · rw [List.filter_append, List.filter_append, Sql.filter_spaced h.table, Sql.filter_spaced hparameters]
  unfold Sql.fragmentsWith
  simp only [List.filter_append]
  rw [target, h.verb, Sql.filter_spaced h.condition, Sql.filter_customs, Sql.filter_customs, h.customs,
    Sql.filter_spaced h.order, Sql.filter_spaced h.limit]

theorem AgreeVisibly.compile_eq (h : AgreeVisibly first second) (policy : CompilePolicy) :
    compile policy first = compile policy second := by
  have parameters := h.parameters
  rw [compile, compile, h.verb, Sql.fragments, Sql.fragments]
  cases hp : Sql.declaredParameters first with
  | error fault =>
    cases hq : Sql.declaredParameters second with
    | error other =>
      rw [hp, hq] at parameters
      cases parameters
      rfl
    | ok q => rw [hp, hq] at parameters; cases parameters
  | ok p =>
    cases hq : Sql.declaredParameters second with
    | error other => rw [hp, hq] at parameters; cases parameters
    | ok q =>
      rw [hp, hq] at parameters
      have same : Sql.assemble (Sql.fragmentsWith first p) = Sql.assemble (Sql.fragmentsWith second q) := by
        rw [Sql.assemble_eq, Sql.assemble_eq, h.filter_fragmentsWith (Except.ok.inj parameters)]
      simp only [Except.map, same]

end Clauses

/-- The text of a statement is its visible fragments in their fixed order, joined pairwise and trimmed. A space
never comes to stand beside a space, a tight fragment is glued to one that is not padded, and fragments that are
empty have no effect at all. -/
theorem compile_joins (policy : CompilePolicy) (clauses : Clauses) (sql : String)
    (hsql : compile policy clauses = .ok sql) :
    ∃ all visible, Sql.fragments clauses = .ok all ∧ visible = all.filter Sql.Fragment.isVisible ∧
      sql = Text.trim (Sql.joined visible) ∧
      (∀ head f g rest, visible = head ++ f :: g :: rest →
        Sql.joined visible = Sql.joined (head ++ [f]) ++ Sql.between f g ++ Sql.joined (g :: rest) ∧
        (Sql.between f g ≠ "" → Sql.between f g = " " ∧
          Sql.endsWithSpace (Sql.joined (head ++ [f])) = false ∧
          Sql.startsWithSpace (Sql.joined (g :: rest)) = false) ∧
        (g.spacing = .tight → f.spacing ≠ .padded → Sql.between f g = "")) ∧
      ∀ other, Clauses.AgreeVisibly clauses other → compile policy other = .ok sql := by
  obtain ⟨-, parameters, hparameters, hassembled⟩ := compile_eq_ok_iff.1 hsql
  refine ⟨Sql.fragmentsWith clauses parameters, _, ?_, rfl, ?_, ?_, ?_⟩
  · rw [Sql.fragments, hparameters]
    rfl
  · rw [hassembled, Sql.assemble_eq]
  · intro head f g rest hvisible
    have visible : ∀ e ∈ head ++ f :: g :: rest, e.isVisible = true := by
      rw [← hvisible]
      exact fun e he => (List.mem_filter.1 he).2
    have hf : f.isVisible = true := visible f (by simp)
    have hg : g.isVisible = true := visible g (by simp)
    refine ⟨by rw [hvisible, Sql.joined_append], ?_, Sql.between_eq_empty⟩
    intro hspace
    rw [Sql.endsWithSpace_joined head hf, Sql.startsWithSpace_joined hg]
    exact Sql.between_ne_empty hspace
  · intro other hother
    rw [← hother.compile_eq policy, hsql]

/-- A select with fragments of every spacing, some of them empty. -/
def mixedSelect : Clauses :=
  .ofList [.custom ⟨"empty", "", true⟩, .verb .select, .params (.list [.text "a"]), .table "t ",
    .custom ⟨"lock", "FOR UPDATE", true⟩, .custom ⟨"nothing", "", false⟩, .custom ⟨"end", ";", false⟩,
    .custom ⟨"note", "--", false⟩, .order ""]

/-- The same select without its empty fragments. -/
def compactSelect : Clauses :=
  .ofList [.verb .select, .params (.list [.text "a"]), .table "t ", .custom ⟨"lock", "FOR UPDATE", true⟩,
    .custom ⟨"end", ";", false⟩, .custom ⟨"note", "--", false⟩]

theorem compile_joins_mixed : compile .strict compactSelect = .ok "SELECT a FROM t FOR UPDATE ;--" := by
  obtain ⟨all, visible, -, -, -, -, others⟩ :=
    compile_joins .strict mixedSelect "SELECT a FROM t FOR UPDATE ;--" rfl
  exact others compactSelect ⟨rfl, rfl, rfl, rfl, rfl, rfl, rfl⟩

end SqlBuilder

import SqlBuilder.Proofs.Clause.Naming
import SqlBuilder.Statement

/-!
# Declarations by name

A declaration by a word does what a declaration by kind does, or it fails and changes nothing.

* `Statement.ByKind`, `Statement.StandsFor` : the declarations by kind, and the one that a word with a payload
  stands for.
* `Statement.TakesText` : the kinds of clause that are declared with one text.
* `Statement.namedClause_of_standsFor`, `Statement.namedClause_of_unknown`, `Statement.namedClause_of_not_single` :
  all that comes of a word and a payload.
* `Statement.Replaces` : a sequence of declarations in which those by name are replaced or dropped.
* `declareByName_as_byKind` : for one declaration and for sequences.
-/

namespace SqlBuilder

set_option autoImplicit false

namespace Statement

/-! ## The text of a payload -/

theorem requireSingle_of_single (kind : Clause.Kind) {payload : Payload} {text : String}
    (h : payload.Single text) : requireSingle kind payload = .ok text := by
  rw [requireSingle, Payload.singleText?_eq_some_iff.2 h]

theorem requireSingle_of_not_single (kind : Clause.Kind) {payload : Payload}
    (h : ∀ text, ¬ payload.Single text) :
    requireSingle kind payload = .error (.invalidPayload kind.word (.notSingle payload.shape)) := by
  have none : payload.singleText? = none :=
    Option.eq_none_iff_forall_ne_some.2 fun text found => h text (Payload.singleText?_eq_some_iff.1 found)
  rw [requireSingle, none]

/-! ## Declarations by kind -/

inductive ByKind where
  | verb (verb : Verb)
  | table (name : String)
  | params (payload : Payload)
  | filter (payload : Payload)
  | limit (count : String)
  | order (expression : String)
  | labelled (label text : String) (padded : Bool)
  | clause (clause : Clause)

def ByKind.apply (s : Statement) : ByKind → Statement
  | verb v => s.verb v
  | table name => s.table name
  | params payload => s.params payload
  | filter payload => s.filter payload
  | limit count => s.limit count
  | order expression => s.order expression
  | labelled label text padded => s.labelled label text padded
  | clause c => s.declare c

/-- The clause that is declared. -/
def ByKind.declared : ByKind → Clause
  | verb v => .verb v
  | table name => .table name
  | params payload => .params payload
  | filter payload => .filter payload
  | limit count => .limitTo count
  | order expression => .orderBy expression
  | labelled label text padded => .custom ⟨label, text, padded⟩
  | clause c => c

theorem ByKind.apply_eq (s : Statement) (d : ByKind) : d.apply s = s.declare d.declared := by cases d <;> rfl

/-! ## What a word stands for -/

/-- The words that are declared with any payload. -/
def freeWords : List String := ["select", "insert", "update", "delete", "drop", "params", "where"]

/-- The words that are declared with a payload of one text. -/
def singleWords : List String := ["table", "limit", "order"]

/-- The declaration by kind that a word with a payload stands for. -/
inductive StandsFor (name : String) (payload : Payload) : ByKind → Prop
  | verb (v : Verb) (word : Clause.Name.lowerCase name = v.word) : StandsFor name payload (.verb v)
  | params (word : Clause.Name.lowerCase name = "params") : StandsFor name payload (.params payload)
  | filter (word : Clause.Name.lowerCase name = "where") : StandsFor name payload (.filter payload)
  | table {text : String} (word : Clause.Name.lowerCase name = "table") (single : payload.Single text) :
      StandsFor name payload (.table text)
  | limit {text : String} (word : Clause.Name.lowerCase name = "limit") (single : payload.Single text) :
      StandsFor name payload (.limit text)
  | order {text : String} (word : Clause.Name.lowerCase name = "order") (single : payload.Single text) :
      StandsFor name payload (.order text)

variable {name : String} {payload : Payload}

theorem mem_freeWords_iff {word : String} :
    word ∈ freeWords ↔ (∃ v : Verb, word = v.word) ∨ word = "params" ∨ word = "where" := by
  constructor
  · intro h
    simp only [freeWords, List.mem_cons, List.not_mem_nil, or_false] at h
    obtain h | h | h | h | h | h | h := h
    · exact .inl ⟨.select, h⟩
    · exact .inl ⟨.insert, h⟩
    · exact .inl ⟨.update, h⟩
    · exact .inl ⟨.delete, h⟩
    · exact .inl ⟨.drop, h⟩
    · exact .inr (.inl h)
    · exact .inr (.inr h)
  · rintro (⟨v, rfl⟩ | rfl | rfl)
    · cases v <;> decide
    · decide
    · decide

theorem exists_standsFor_iff :
    (∃ d, StandsFor name payload d) ↔
      Clause.Name.lowerCase name ∈ freeWords ∨
        (Clause.Name.lowerCase name ∈ singleWords ∧ ∃ text, payload.Single text) := by
  rw [mem_freeWords_iff]
  constructor
  · rintro ⟨_, ⟨v, word⟩ | word | word | ⟨word, single⟩ | ⟨word, single⟩ | ⟨word, single⟩⟩
    · exact .inl (.inl ⟨v, word⟩)
    · exact .inl (.inr (.inl word))
    · exact .inl (.inr (.inr word))
    all_goals exact .inr ⟨by rw [word]; decide, _, single⟩
  · rintro ((⟨v, word⟩ | word | word) | ⟨word, text, single⟩)
    · exact ⟨_, .verb v word⟩
    · exact ⟨_, .params word⟩
    · exact ⟨_, .filter word⟩
    · simp only [singleWords, List.mem_cons, List.not_mem_nil, or_false] at word
      obtain word | word | word := word
      · exact ⟨_, .table word single⟩
      · exact ⟨_, .limit word single⟩
      · exact ⟨_, .order word single⟩

/-! ## What comes of a word and a payload -/

theorem ofWord?_kind {k : Clause.Kind} (named : k ∈ Clause.Name.namedKinds)
    (word : Clause.Name.lowerCase name = k.word) : Clause.Name.ofWord? name = some (.kind k) :=
  Clause.Name.ofWord?_eq_some_iff.2 ⟨named, word.symm⟩

/-- The kinds of clause that are declared with one text, and the clause that each makes of it. -/
inductive TakesText : Clause.Kind → (String → Clause) → Prop
  | table : TakesText .table .table
  | limit : TakesText .limit .limitTo
  | order : TakesText .order .orderBy

theorem mem_singleWords_iff {word : String} :
    word ∈ singleWords ↔ ∃ kind make, TakesText kind make ∧ word = kind.word := by
  constructor
  · intro h
    simp only [singleWords, List.mem_cons, List.not_mem_nil, or_false] at h
    obtain h | h | h := h
    · exact ⟨_, _, .table, h⟩
    · exact ⟨_, _, .limit, h⟩
    · exact ⟨_, _, .order, h⟩
  · rintro ⟨kind, make, takes, rfl⟩
    cases takes <;> decide

theorem namedClause_of_takesText {kind : Clause.Kind} {make : String → Clause} (takes : TakesText kind make)
    (payload : Payload) (word : Clause.Name.lowerCase name = kind.word) :
    namedClause name payload = (requireSingle kind payload).map make := by
  have named : kind ∈ Clause.Name.namedKinds := by cases takes <;> decide
  rw [namedClause, ofWord?_kind named word]
  cases takes <;> rfl

theorem namedClause_of_single {kind : Clause.Kind} {make : String → Clause} (takes : TakesText kind make)
    (word : Clause.Name.lowerCase name = kind.word) {text : String} (single : payload.Single text) :
    namedClause name payload = .ok (make text) := by
  rw [namedClause_of_takesText takes payload word, requireSingle_of_single kind single]
  rfl

theorem namedClause_of_standsFor {d : ByKind} (h : StandsFor name payload d) :
    namedClause name payload = .ok d.declared := by
  cases h with
  | verb v word =>
    have spelled : Clause.Name.ofWord? name = some (.verb v) := Clause.Name.ofWord?_eq_some_iff.2 word.symm
    rw [namedClause, spelled]
    rfl
  | params word =>
    rw [namedClause, @ofWord?_kind name .params (by decide) word]
    rfl
  | filter word =>
    rw [namedClause, @ofWord?_kind name .filter (by decide) word]
    rfl
  | table word single => exact namedClause_of_single .table word single
  | limit word single => exact namedClause_of_single .limit word single
  | order word single => exact namedClause_of_single .order word single

/-- The word is checked before the payload. -/
theorem namedClause_of_unknown (hfree : Clause.Name.lowerCase name ∉ freeWords)
    (hsingle : Clause.Name.lowerCase name ∉ singleWords) :
    namedClause name payload = .error (.unsupportedClause name) := by
  have unknown : Clause.Name.ofWord? name = none := by
    refine Option.eq_none_iff_forall_ne_some.2 fun n found => ?_
    have spelled := Clause.Name.ofWord?_eq_some_iff.1 found
    cases n with
    | verb v => exact hfree (mem_freeWords_iff.2 (.inl ⟨v, spelled.symm⟩))
    | kind k =>
      obtain ⟨named, word⟩ := spelled
      rw [← word] at hfree hsingle
      cases k with
      | verb | custom => exact absurd named (by decide)
      | params | filter => exact hfree (by decide)
      | table | limit | order => exact hsingle (by decide)
  rw [namedClause, unknown]

theorem namedClause_of_not_single (word : Clause.Name.lowerCase name ∈ singleWords)
    (h : ∀ text, ¬ payload.Single text) :
    namedClause name payload =
      .error (.invalidPayload (Clause.Name.lowerCase name) (.notSingle payload.shape)) := by
  obtain ⟨kind, make, takes, spelled⟩ := mem_singleWords_iff.1 word
  rw [namedClause_of_takesText takes payload spelled, requireSingle_of_not_single kind h, spelled]
  rfl

variable (s : Statement)

theorem declareByName_of_standsFor {d : ByKind} (h : StandsFor name payload d) :
    s.declareByName name payload = (.ok (), d.apply s) := by
  rw [declareByName, namedClause_of_standsFor h, d.apply_eq]

theorem declareByName_of_error {e : StatementError} (h : namedClause name payload = .error e) :
    s.declareByName name payload = (.error e, s) := by
  rw [declareByName, h]

/-- A declaration by name that stands for no declaration by kind fails and changes nothing. -/
theorem declareByName_of_forall_not (h : ∀ d, ¬ StandsFor name payload d) :
    ∃ e, s.declareByName name payload = (.error e, s) := by
  have none : ¬ ∃ d, StandsFor name payload d := fun ⟨d, hd⟩ => h d hd
  rw [exists_standsFor_iff, not_or] at none
  obtain ⟨hfree, hsingle⟩ := none
  by_cases word : Clause.Name.lowerCase name ∈ singleWords
  · have shape : ∀ text, ¬ payload.Single text := fun text single => hsingle ⟨word, text, single⟩
    exact ⟨_, s.declareByName_of_error (namedClause_of_not_single word shape)⟩
  · exact ⟨_, s.declareByName_of_error (namedClause_of_unknown hfree word)⟩

theorem declareByName_eq_ok_iff :
    (s.declareByName name payload).1 = .ok () ↔ ∃ d, StandsFor name payload d := by
  constructor
  · intro h
    by_contra none
    obtain ⟨e, failed⟩ := s.declareByName_of_forall_not fun d hd => none ⟨d, hd⟩
    rw [failed] at h
    cases h
  · rintro ⟨d, hd⟩
    rw [s.declareByName_of_standsFor hd]

/-! ## Sequences of declarations -/

inductive Declaration where
  | byKind (declaration : ByKind)
  | byName (name : String) (payload : Payload)

/-- The statement after a declaration, whether it fails or not. -/
def attempt : Declaration → Statement
  | .byKind d => d.apply s
  | .byName name payload => (s.declareByName name payload).2

def attemptAll (declarations : List Declaration) : Statement := declarations.foldl attempt s

def applyAll (declarations : List ByKind) : Statement := declarations.foldl ByKind.apply s

/-- Declarations by name are replaced by what they stand for, and dropped if they stand for nothing. -/
inductive Replaces : List Declaration → List ByKind → Prop
  | nil : Replaces [] []
  | byKind (d : ByKind) {declarations : List Declaration} {others : List ByKind} :
      Replaces declarations others → Replaces (.byKind d :: declarations) (d :: others)
  | byName {name : String} {payload : Payload} {d : ByKind} (h : StandsFor name payload d)
      {declarations : List Declaration} {others : List ByKind} :
      Replaces declarations others → Replaces (.byName name payload :: declarations) (d :: others)
  | dropped {name : String} {payload : Payload} (h : ∀ d, ¬ StandsFor name payload d)
      {declarations : List Declaration} {others : List ByKind} :
      Replaces declarations others → Replaces (.byName name payload :: declarations) others

theorem exists_replaces (declarations : List Declaration) : ∃ others, Replaces declarations others := by
  induction declarations with
  | nil => exact ⟨[], .nil⟩
  | cons declaration declarations ih =>
    obtain ⟨others, h⟩ := ih
    cases declaration with
    | byKind d => exact ⟨d :: others, .byKind d h⟩
    | byName name payload =>
      by_cases stands : ∃ d, StandsFor name payload d
      · obtain ⟨d, hd⟩ := stands
        exact ⟨d :: others, .byName hd h⟩
      · exact ⟨others, .dropped (not_exists.1 stands) h⟩

theorem attemptAll_of_replaces {declarations : List Declaration} {others : List ByKind}
    (h : Replaces declarations others) : s.attemptAll declarations = s.applyAll others := by
  induction h generalizing s with
  | nil => rfl
  | byKind d _ ih => exact ih (d.apply s)
  | @byName name payload d stands _ _ _ ih =>
    have step : s.attempt (.byName name payload) = d.apply s := by
      rw [attempt, s.declareByName_of_standsFor stands]
    rw [attemptAll, List.foldl_cons, step]
    exact ih (d.apply s)
  | @dropped name payload none _ _ _ ih =>
    have step : s.attempt (.byName name payload) = s := by
      obtain ⟨e, failed⟩ := s.declareByName_of_forall_not none
      rw [attempt, failed]
    rw [attemptAll, List.foldl_cons, step]
    exact ih s

end Statement

open Statement in
/-- A declaration by name succeeds iff its word is known, in upper or lower case, and a table, a limit or an
ordering comes with one text. It then does what the declaration by kind does. Otherwise it changes nothing:
an unknown word is reported as it was written, whatever the payload, and else the word and the shape of the
payload are. So a sequence of declarations does what is left of it when those by name are replaced. -/
theorem declareByName_as_byKind (s : Statement) :
    (∀ name payload,
      ((s.declareByName name payload).1 = .ok () ↔
        Clause.Name.lowerCase name ∈ freeWords ∨
          (Clause.Name.lowerCase name ∈ singleWords ∧ ∃ text, payload.Single text)) ∧
      ((s.declareByName name payload).1 = .ok () ↔ ∃ d, StandsFor name payload d) ∧
      (∀ d, StandsFor name payload d → s.declareByName name payload = (.ok (), d.apply s)) ∧
      (Clause.Name.lowerCase name ∉ freeWords → Clause.Name.lowerCase name ∉ singleWords →
        s.declareByName name payload = (.error (.unsupportedClause name), s)) ∧
      (Clause.Name.lowerCase name ∈ singleWords → (∀ text, ¬ payload.Single text) →
        s.declareByName name payload =
          (.error (.invalidPayload (Clause.Name.lowerCase name) (.notSingle payload.shape)), s))) ∧
    ∀ declarations, (∃ others, Replaces declarations others) ∧
      ∀ others, Replaces declarations others → s.attemptAll declarations = s.applyAll others := by
  refine ⟨fun name payload => ⟨?_, s.declareByName_eq_ok_iff, ?_, ?_, ?_⟩, ?_⟩
  · rw [declareByName_eq_ok_iff, exists_standsFor_iff]
  · exact fun d h => s.declareByName_of_standsFor h
  · exact fun hfree hsingle => s.declareByName_of_error (namedClause_of_unknown hfree hsingle)
  · exact fun word h => s.declareByName_of_error (namedClause_of_not_single word h)
  · exact fun declarations => ⟨exists_replaces declarations, fun others h => s.attemptAll_of_replaces h⟩

/-- Words in upper and lower case among declarations by kind. The fragment has no word, and a document is no
expression to order by. -/
def Statement.spelledDeclarations : List Statement.Declaration :=
  [.byName "SELECT" (.rows []), .byName "TaBlE" (.list [.text "users"]), .byName "Custom" (.text "FOR UPDATE"),
    .byKind (.labelled "lock" "FOR SHARE" true), .byName "Order" (.list [.json (.array [])]),
    .byKind (.table "accounts"), .byName "lIMIT" (.text "10"), .byName "where" (.list [])]

/-- What is left of them. -/
def Statement.plainDeclarations : List Statement.ByKind :=
  [.verb .select, .table "users", .labelled "lock" "FOR SHARE" true, .table "accounts", .limit "10", .filter (.list [])]

open Statement in
theorem declareByName_as_byKind_spelled :
    ({} : Statement).attemptAll spelledDeclarations = ({} : Statement).applyAll plainDeclarations ∧
    ({} : Statement).declareByName "TaBlE" (.list [.text "users"]) = (.ok (), ({} : Statement).table "users") ∧
    ({} : Statement).declareByName "Custom" (.text "FOR UPDATE") = (.error (.unsupportedClause "Custom"), {}) ∧
    ({} : Statement).declareByName "Order" (.list [.json (.array [])]) =
      (.error (.invalidPayload "order" (.notSingle .list)), {}) := by
  have structured : ∀ text, ¬ (Payload.list [.json (.array [])]).Single text := by
    rintro _ (_ | ⟨_, plain⟩)
    exact plain _ rfl
  have unordered : ∀ d, ¬ StandsFor "Order" (.list [.json (.array [])]) d := by
    intro d h
    obtain spelled | ⟨_, text, single⟩ := exists_standsFor_iff.1 ⟨d, h⟩
    · exact absurd spelled (by decide)
    · exact structured text single
  have unknown : ∀ d, ¬ StandsFor "Custom" (.text "FOR UPDATE") d := by
    intro d h
    obtain spelled | ⟨spelled, _⟩ := exists_standsFor_iff.1 ⟨d, h⟩
    · exact absurd spelled (by decide)
    · exact absurd spelled (by decide)
  have users : StandsFor "TaBlE" (.list [.text "users"]) (.table "users") :=
    .table (by decide) (.value (.text "users") fun _ h => by cases h)
  have replaced : Replaces spelledDeclarations plainDeclarations :=
    .byName (.verb .select (by decide)) <| .byName users <| .dropped unknown <| .byKind _ <| .dropped unordered <|
      .byKind _ <| .byName (.limit (by decide) (.text "10")) <| .byName (.filter (by decide)) .nil
  refine ⟨?_, ?_, ?_, ?_⟩
  · exact ((declareByName_as_byKind {}).2 _).2 _ replaced
  · exact ((declareByName_as_byKind {}).1 _ _).2.2.1 _ users
  · exact ((declareByName_as_byKind {}).1 _ _).2.2.2.1 (by decide) (by decide)
  · exact ((declareByName_as_byKind {}).1 "Order" _).2.2.2.2 (by decide) structured

end SqlBuilder

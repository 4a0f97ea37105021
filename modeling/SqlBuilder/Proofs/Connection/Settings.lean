import SqlBuilder.Connection.Settings
import SqlBuilder.Proofs.Decimal.Bounded
import SqlBuilder.Proofs.Text.Trimmed

/-!
# Settings from an environment

The variables of an environment either give settings or are refused, and which of the two is decided by a grammar: the
connection text must not be blank, and the size of the pool, where there is one, is a numeral with blank characters
around it.

* `ConnectSettings.WritesSize` : the texts of a size, which are the ones that are read (`readPoolSize_eq_some_iff`).
* `ConnectSettings.IsUrl`, `ConnectSettings.IsPoolSize` : what the two variables may hold, and what they stand for.
* `ConnectSettings.Reads` : what becomes of the variables; `ofVariables_eq_iff`.
* `ofEnvironment_accepts_exactly` : the settings of an environment, and what is reported when it has none.
-/

namespace SqlBuilder

set_option autoImplicit false

open Decimal Text

/-! ## Numerals in a text -/

theorem Text.not_isBlank_of_isDigit {c : Char} (h : c.isDigit = true) : isBlank c = false := by
  have lower : 48 ≤ c.toNat := (Char.isDigit_iff_toNat.1 h).1
  have upper : c.toNat ≤ 57 := (Char.isDigit_iff_toNat.1 h).2
  simp only [isBlank, blankRanges, List.any_cons, List.any_nil, Bool.or_false, Bool.or_eq_false_iff,
    Bool.and_eq_false_iff, decide_eq_false_iff_not]
  omega

theorem Decimal.Numeral.not_isBlank {cs : List Char} {n : Nat} (h : Numeral cs n) {c : Char} (hc : c ∈ cs) :
    isBlank c = false := by
  cases h with
  | unsigned run => exact not_isBlank_of_isDigit (run.digits c hc)
  | signed run =>
    obtain rfl | hc := List.mem_cons.1 hc
    · decide
    · exact not_isBlank_of_isDigit (run.digits c hc)

theorem Decimal.Numeral.trimmed {cs : List Char} {n : Nat} (h : Numeral cs n) : Trimmed cs where
  first _ hc := h.not_isBlank (List.mem_of_mem_head? hc)
  last _ hc := h.not_isBlank (List.mem_of_mem_getLast? hc)

namespace ConnectSettings

variable {url poolSize : Option String} {address : String} {size : Nat}

/-! ## What the variables may hold -/

/-- A numeral with blank characters around it, of a number that is at least one and has 64 bits. -/
structure WritesSize (text : String) (size : Nat) : Prop where
  numeral : ∃ cs, Numeral cs size ∧ Padded cs text.toList
  positive : 1 ≤ size
  bounded : size ≤ 18446744073709551615

/-- A connection text, which must not be blank. -/
def IsUrl (value : Option String) (url : String) : Prop := value = some url ∧ HasSolid url

/-- The size of a pool, or the one that a pool has when none is given. -/
inductive IsPoolSize : Option String → Nat → Prop
  | missing : IsPoolSize none 16
  | written {text : String} {size : Nat} (h : WritesSize text size) : IsPoolSize (some text) size

theorem readPoolSize_eq_some_iff {text : String} : readPoolSize text = some size ↔ WritesSize text size := by
  rw [readPoolSize, Option.filter_eq_some_iff, readBounded_eq_some_iff, toList_trim, decide_eq_true_iff]
  constructor
  · rintro ⟨⟨numeral, bounded⟩, positive⟩
    exact ⟨⟨_, numeral, padded_trimBlanks text.toList⟩, Nat.pos_of_ne_zero positive, bounded⟩
  · rintro ⟨⟨cs, numeral, padded⟩, positive, bounded⟩
    -- A numeral has no blank character, so it is all that trimming leaves.
    rw [trimBlanks_eq_iff.2 ⟨numeral.trimmed, padded⟩]
    exact ⟨⟨numeral, bounded⟩, Nat.ne_of_gt positive⟩

theorem usableUrl_eq_some_iff : usableUrl url = some address ↔ IsUrl url address := by
  rw [usableUrl, Option.filter_eq_some_iff, IsUrl, HasSolid]
  simp [allBlank]

/-! ## Reading them -/

/-- What becomes of the two variables. The connection text is looked at first. -/
inductive Reads (url poolSize : Option String) : Except SettingsFault ConnectSettings → Prop
  | settings {address : String} {size : Nat} (hurl : IsUrl url address) (hsize : IsPoolSize poolSize size) :
      Reads url poolSize (.ok ⟨address, size⟩)
  | missingUrl (missing : ∀ address, ¬ IsUrl url address) : Reads url poolSize (.error .missingUrl)
  | poolSize (hurl : ∃ address, IsUrl url address) (unread : ∀ size, ¬ IsPoolSize poolSize size) :
      Reads url poolSize (.error .poolSize)

theorem ofVariables_of_settings (hurl : IsUrl url address) (hsize : IsPoolSize poolSize size) :
    ofVariables url poolSize = .ok ⟨address, size⟩ := by
  rw [ofVariables, usableUrl_eq_some_iff.2 hurl]
  cases hsize with
  | missing => rfl
  | written h => simp only [readPoolSize_eq_some_iff.2 h]

theorem ofVariables_of_missingUrl (missing : ∀ address, ¬ IsUrl url address) :
    ofVariables url poolSize = .error .missingUrl := by
  have unusable : usableUrl url = none :=
    Option.eq_none_iff_forall_ne_some.2 fun address used => missing address (usableUrl_eq_some_iff.1 used)
  rw [ofVariables, unusable]

theorem ofVariables_of_poolSize (hurl : IsUrl url address) (unread : ∀ size, ¬ IsPoolSize poolSize size) :
    ofVariables url poolSize = .error .poolSize := by
  rw [ofVariables, usableUrl_eq_some_iff.2 hurl]
  cases poolSize with
  | none => exact absurd .missing (unread 16)
  | some text =>
    have nothing : readPoolSize text = none :=
      Option.eq_none_iff_forall_ne_some.2 fun size read => unread size (.written (readPoolSize_eq_some_iff.1 read))
    simp only [nothing]

theorem ofVariables_eq_iff {outcome : Except SettingsFault ConnectSettings} :
    ofVariables url poolSize = outcome ↔ Reads url poolSize outcome := by
  constructor
  · rintro rfl
    by_cases hurl : ∃ address, IsUrl url address
    · obtain ⟨address, haddress⟩ := hurl
      by_cases hsize : ∃ size, IsPoolSize poolSize size
      · obtain ⟨size, hsize⟩ := hsize
        rw [ofVariables_of_settings haddress hsize]
        exact .settings haddress hsize
      · rw [ofVariables_of_poolSize haddress (not_exists.1 hsize)]
        exact .poolSize ⟨address, haddress⟩ (not_exists.1 hsize)
    · rw [ofVariables_of_missingUrl (not_exists.1 hurl)]
      exact .missingUrl (not_exists.1 hurl)
  · intro reads
    cases reads with
    | settings hurl hsize => exact ofVariables_of_settings hurl hsize
    | missingUrl missing => exact ofVariables_of_missingUrl missing
    | poolSize hurl unread =>
      obtain ⟨address, haddress⟩ := hurl
      exact ofVariables_of_poolSize haddress unread

theorem ofEnvironment_eq_ok_iff {lookup : String → Option String} {settings : ConnectSettings} :
    ofEnvironment lookup = .ok settings ↔ ofVariables (lookup urlVariable) (lookup poolSizeVariable) = .ok settings := by
  rw [ofEnvironment]
  cases ofVariables (lookup urlVariable) (lookup poolSizeVariable) with
  | error fault => constructor <;> rintro ⟨⟩
  | ok found =>
    constructor
    · rintro ⟨⟩
      rfl
    · rintro ⟨⟩
      rfl

theorem ofEnvironment_eq_error_iff {lookup : String → Option String} {e : StatementError} :
    ofEnvironment lookup = .error e ↔
      ∃ fault, ofVariables (lookup urlVariable) (lookup poolSizeVariable) = .error fault ∧ e = .settings fault := by
  rw [ofEnvironment]
  cases ofVariables (lookup urlVariable) (lookup poolSizeVariable) with
  | error fault =>
    constructor
    · rintro ⟨⟩
      exact ⟨fault, rfl, rfl⟩
    · rintro ⟨_, ⟨⟩, rfl⟩
      rfl
  | ok found =>
    constructor
    · rintro ⟨⟩
    · rintro ⟨_, ⟨⟩, -⟩

end ConnectSettings

open ConnectSettings in
/-- An environment gives settings exactly if it has a connection text that is not blank, and its pool size is missing or
a numeral from one to the greatest number of 64 bits, with blank characters around it or without. The connection text is
kept as it is, and the size is the number of the numeral. Any other environment is reported: by its connection text if
it has none that is not blank, else by its pool size. -/
theorem ofEnvironment_accepts_exactly (lookup : String → Option String) :
    (∀ settings, ofEnvironment lookup = .ok settings ↔
      IsUrl (lookup "DATABASE_URL") settings.url ∧
      IsPoolSize (lookup "PGSTMT_POOL_MAX_SIZE") settings.poolSize) ∧
    ∀ e, ofEnvironment lookup = .error e ↔
      ((∀ url, ¬ IsUrl (lookup "DATABASE_URL") url) ∧ e = .settings .missingUrl ∧
        e.message = "Configuration error: DATABASE_URL is not set") ∨
      ((∃ url, IsUrl (lookup "DATABASE_URL") url) ∧ (∀ size, ¬ IsPoolSize (lookup "PGSTMT_POOL_MAX_SIZE") size) ∧
        e = .settings .poolSize ∧
        e.message = "Configuration error: PGSTMT_POOL_MAX_SIZE must be a positive integer") := by
  constructor
  · intro settings
    rw [ofEnvironment_eq_ok_iff, ofVariables_eq_iff]
    constructor
    · rintro ⟨hurl, hsize⟩
      exact ⟨hurl, hsize⟩
    · rintro ⟨hurl, hsize⟩
      exact .settings hurl hsize
  · intro e
    rw [ofEnvironment_eq_error_iff]
    constructor
    · rintro ⟨fault, hfault, rfl⟩
      cases ofVariables_eq_iff.1 hfault with
      | missingUrl missing => exact .inl ⟨missing, rfl, rfl⟩
      | poolSize hurl unread => exact .inr ⟨hurl, unread, rfl, rfl⟩
    · rintro (⟨missing, rfl, -⟩ | ⟨hurl, unread, rfl, -⟩)
      · exact ⟨.missingUrl, ofVariables_eq_iff.2 (.missingUrl missing), rfl⟩
      · exact ⟨.poolSize, ofVariables_eq_iff.2 (.poolSize hurl unread), rfl⟩

example : ConnectSettings.ofVariables (some " db ") (some "\u2003+0018446744073709551615\n") =
    .ok ⟨" db ", 18446744073709551615⟩ := by decide +kernel

example : ConnectSettings.ofVariables (some " db ") (some "18446744073709551616") = .error .poolSize := by
  decide +kernel

end SqlBuilder

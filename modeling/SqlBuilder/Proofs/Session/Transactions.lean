import Mathlib.Data.List.Basic
import Mathlib.Data.List.TakeWhile
import SqlBuilder.Proofs.Execution.Running
import SqlBuilder.Proofs.Session.Calls

/-!
# Transactions over a whole session

Statements are run one after the other on one session, and the server refuses what it likes. Each write leaves the
session without a transaction, and so does a read unless its text opens one. What becomes of a statement then does not
depend on those before it.

* `Turn.text`, `Report.requests` : the text that a turn runs, and what it sends.
* `Turn.Settles` : what a turn comes to. `Turn.settles` says that every turn does.
* `Settled` : the turns of a session settle one by one. `runAll_settled` is the induction over the session.
* `runAll_settles` : sessions from their first request to what the server has received in the end.
-/

namespace SqlBuilder

set_option autoImplicit false

/-- The requests that were sent during a run. -/
def Report.requests {σ : Type} (report : Report σ) : List Request := report.journal.filterMap Entry.request?

namespace Session

/-! ## One turn -/

/-- The text that a turn runs. -/
def Turn.text (turn : Turn) : Except StatementError String :=
  match turn.command with
  | .compiled _ => turn.statement.compile
  | .given sql => .ok sql

variable {client : Client} {turn : Turn} {sql : String} {status : Status}

theorem Turn.run_of_text_error {e : StatementError} (h : turn.text = .error e) :
    turn.run client status = ⟨.error e, [], status⟩ := by
  obtain ⟨statement, command, script⟩ := turn
  cases command with
  | compiled settings =>
    have failed : statement.compile = .error e := h
    rw [run, Statement.run, Statement.runCompiled, failed]
  | given sql => cases h

/-- The server answers at once, so a call is never cut off. -/
theorem submit_backend (settings : RunSettings) (verb : Option Verb) (sql : String) (client : Client)
    (script : Script) (status : Status) :
    submit settings verb sql (backend client script) status =
      let reply := (backend client script).call (.ofVerb verb) sql status
      ⟨reply.result, preamble settings verb sql ++ reply.entries ++ [.completed], reply.state⟩ := by
  have atOnce : ((backend client script).call (.ofVerb verb) sql status).delay = ⟨0⟩ := by
    cases Route.ofVerb verb <;> rfl
  have inTime : overrun? settings.timeLimit ((backend client script).call (.ofVerb verb) sql status).delay = none := by
    rw [atOnce]
    exact overrun?_eq_none fun _ _ => .inl rfl
  exact submit_of_within inTime

/-- Only the call sends requests. -/
theorem requests_submit (settings : RunSettings) (verb : Option Verb) (sql : String) (client : Client)
    (script : Script) (status : Status) :
    (submit settings verb sql (backend client script) status).requests =
      ((backend client script).call (.ofVerb verb) sql status).entries.filterMap Entry.request? := by
  have silent : (preamble settings verb sql).filterMap Entry.request? = [] := by
    rw [preamble]
    cases settings.logs <;> rfl
  rw [submit_backend, Report.requests, List.filterMap_append, List.filterMap_append, silent]
  exact List.append_nil _

theorem Turn.run_of_text_ok (h : turn.text = .ok sql) :
    let reply := (backend client turn.script).call (.ofVerb turn.statement.verb?) sql status
    (turn.run client status).result = reply.result ∧
      (turn.run client status).requests = reply.entries.filterMap Entry.request? ∧
      (turn.run client status).state = reply.state := by
  obtain ⟨statement, command, script⟩ := turn
  cases command with
  | compiled settings =>
    have compiled : statement.compile = .ok sql := h
    have submitted := submit_backend settings statement.verb? sql client script status
    rw [run, Statement.run, Statement.runCompiled, compiled]
    exact ⟨congrArg Report.result submitted, requests_submit settings statement.verb? sql client script status,
      congrArg Report.state submitted⟩
  | given text =>
    obtain rfl : text = sql := Except.ok.inj h
    have submitted := submit_backend {} statement.verb? text client script status
    exact ⟨congrArg Report.result submitted, requests_submit {} statement.verb? text client script status,
      congrArg Report.state submitted⟩

theorem Turn.run_takes (h : turn.text = .ok sql) :
    Takes client turn.script sql status (.ofVerb turn.statement.verb?) (turn.run client status).result
      (turn.run client status).requests (turn.run client status).state := by
  obtain ⟨result, requests, state⟩ := turn.run_of_text_ok h
  rw [result, requests, state]
  cases Route.ofVerb turn.statement.verb? with
  | read => exact takes_query client turn.script sql status
  | write => exact takes_transact client turn.script sql status

/-! ## What a turn comes to -/

/-- The text of a turn goes into a message and asks for no values. -/
structure Turn.Plain (turn : Turn) (sql : String) : Prop where
  text : turn.text = .ok sql
  unterminated : terminator ∉ sql.toList
  short : sql.utf8ByteSize ≤ safeLength
  valueless : turn.script.parameters = 0

/-- What a turn comes to that finds the session in some state. -/
structure Turn.Settles (client : Client) (turn : Turn) (status : Status) (report : Report Status) : Prop where
  uncompiled : ∀ e, turn.text = .error e → report.requests = [] ∧ report.result = .error e ∧ report.state = status
  -- A request that is not sent ends a plan as a refused one does, but the server does not hear of it.
  select : ∀ sql, turn.text = .ok sql → turn.statement.verb? = some .select →
    report.requests = turn.script.upToRefused status ([.prepare sql, .execute].takeWhile (client.sends turn.script))
  write : ∀ sql, turn.text = .ok sql → turn.statement.verb? ≠ some .select →
    report.requests =
      turn.script.upToRefused status
          ([.begin, .prepare sql, .execute, .commit].takeWhile (client.sends turn.script)) ++
        if .commit ∈ report.requests then [] else [.rollback]
  idle : ∀ sql, turn.text = .ok sql → turn.statement.verb? ≠ some .select → report.state = .idle
  closed : ∀ before after, turn.script.answers status report.requests = before ++ (.begin, true) :: after →
    after.countP (fun answer => closes answer.1) = 1
  count_iff : (∃ n, report.result = .ok (.count n)) ↔ (.commit, true) ∈ turn.script.answers status report.requests
  count : ∀ n, report.result = .ok (.count n) → client.changed turn.script.completion = .ok n
  commit_refused : (.commit, false) ∈ turn.script.answers status report.requests →
    report.result = .error (.commit .refused)
  refused : ∀ request, (request, false) ∈ turn.script.answers status report.requests → request ≠ .commit →
    report.result = .error (.execution .refused)
  unsent : ∀ sql fault, turn.text = .ok sql →
    (∀ answer ∈ turn.script.answers status report.requests, answer.2 = true) →
    (planOf (.ofVerb turn.statement.verb?) sql).findSome? (client.obstacle? turn.script) = some fault →
    report.result = .error (.execution fault)
  -- Where a documented client does not send all, and where it does.
  terminated : ∀ sql, turn.text = .ok sql → terminator ∈ sql.toList →
    .prepare sql ∉ report.requests ∧ .commit ∉ report.requests ∧ ∃ fault, report.result = .error (.execution fault)
  parametric : ∀ sql, turn.text = .ok sql → turn.script.parameters ≠ 0 →
    .execute ∉ report.requests ∧ .commit ∉ report.requests ∧ ∃ fault, report.result = .error (.execution fault)
  copied : ∀ sql, turn.text = .ok sql → turn.statement.verb? ≠ some .select → turn.script.completion = none →
    .commit ∉ report.requests ∧ ∃ fault, report.result = .error (.execution fault)
  plain_select : ∀ sql, turn.Plain sql → turn.statement.verb? = some .select →
    report.requests = turn.script.upToRefused status [.prepare sql, .execute]
  plain_write : ∀ sql, turn.Plain sql → turn.statement.verb? ≠ some .select → turn.script.completion ≠ none →
    report.requests = turn.script.upToRefused status [.begin, .prepare sql, .execute, .commit] ++
      if .commit ∈ report.requests then [] else [.rollback]

namespace Client.Documented

theorem sends_prepare_of_mem (documented : client.Documented) (script : Script) (h : terminator ∈ sql.toList) :
    client.sends script (.prepare sql) = false := by
  rw [sends, obstacle?, Option.isNone_eq_false_iff]
  exact Option.isSome_iff_ne_none.2 (documented.unprepared sql h)

theorem sends_execute_iff (documented : client.Documented) (script : Script) :
    client.sends script .execute = true ↔ script.parameters = 0 := by
  rw [sends, obstacle?, Option.isNone_iff_eq_none, documented.executed_iff]

theorem sends_of_plain (documented : client.Documented) (plain : turn.Plain sql) :
    ∀ request ∈ [.begin, .prepare sql, .execute], client.sends turn.script request = true := by
  intro request h
  simp only [List.mem_cons, List.not_mem_nil, or_false] at h
  rcases h with rfl | rfl | rfl
  · rfl
  · rw [sends, obstacle?, documented.prepared sql plain.unterminated plain.short]
    rfl
  · exact (documented.sends_execute_iff turn.script).2 plain.valueless

theorem sends_commit_iff (documented : client.Documented) (script : Script) :
    client.sends script .commit = true ↔ script.completion ≠ none := by
  rw [← documented.counted_iff, sends, obstacle?]
  cases client.changed script.completion <;> simp

end Client.Documented

theorem Turn.settles_of_text_error {e : StatementError} (h : turn.text = .error e) :
    turn.Settles client status ⟨.error e, [], status⟩ := by
  have no_text : ∀ sql, turn.text ≠ .ok sql := by
    intro sql htext
    cases h.symm.trans htext
  exact {
    uncompiled := fun _ htext => ⟨rfl, congrArg Except.error (Except.error.inj (h.symm.trans htext)), rfl⟩
    select := fun sql htext => absurd htext (no_text sql)
    write := fun sql htext => absurd htext (no_text sql)
    idle := fun sql htext => absurd htext (no_text sql)
    closed := fun before after begun => absurd begun (by simp [Report.requests, Script.answers])
    count_iff := by simp [Report.requests, Script.answers]
    count := fun n counted => by cases counted
    commit_refused := fun answered => absurd answered List.not_mem_nil
    refused := fun _ answered => absurd answered List.not_mem_nil
    unsent := fun sql _ htext => absurd htext (no_text sql)
    terminated := fun sql htext => absurd htext (no_text sql)
    parametric := fun sql htext => absurd htext (no_text sql)
    copied := fun sql htext => absurd htext (no_text sql)
    plain_select := fun sql plain => absurd plain.text (no_text sql)
    plain_write := fun sql plain => absurd plain.text (no_text sql) }

theorem Turn.settles_of_text_ok (documented : client.Documented) (htext : turn.text = .ok sql) :
    turn.Settles client status (turn.run client status) := by
  have taken : Takes client turn.script sql status _ _ _ _ := turn.run_takes htext
  have same : ∀ text, turn.text = .ok text → text = sql := fun text h => Except.ok.inj (h.symm.trans htext)
  have select (hverb : turn.statement.verb? = some .select) : (turn.run client status).requests =
      turn.script.upToRefused status ([.prepare sql, .execute].takeWhile (client.sends turn.script)) := by
    rw [hverb] at taken
    exact taken.requests_eq.trans (List.append_nil _)
  have write (hverb : turn.statement.verb? ≠ some .select) : (turn.run client status).requests =
      turn.script.upToRefused status
          ([.begin, .prepare sql, .execute, .commit].takeWhile (client.sends turn.script)) ++
        if .commit ∈ (turn.run client status).requests then [] else [.rollback] := by
    rw [Route.ofVerb_of_ne_select hverb] at taken
    exact taken.requests_eq
  constructor
  case uncompiled =>
    intro e h
    cases htext.symm.trans h
  case select =>
    intro text h
    obtain rfl := same text h
    exact select
  case write =>
    intro text h
    obtain rfl := same text h
    exact write
  case idle =>
    intro _ _ hverb
    rw [Route.ofVerb_of_ne_select hverb] at taken
    exact taken.state_idle fun h => by cases h
  case closed => exact fun before after => taken.closed
  case count_iff => exact taken.count_iff
  case count => exact fun n => taken.count
  case commit_refused => exact taken.result_of_commit_refused
  case refused => exact fun request => taken.result_of_refused
  case unsent =>
    intro text fault h
    obtain rfl := same text h
    exact fun answered => taken.result_of_unsent answered
  case terminated =>
    intro text h hmem
    obtain rfl := same text h
    exact taken.fails_of_unsent prepare_mem_planOf (documented.sends_prepare_of_mem turn.script hmem)
  case parametric =>
    intro text h hparameters
    have unsent : client.sends turn.script .execute = false :=
      Bool.eq_false_iff.2 (mt (documented.sends_execute_iff turn.script).1 hparameters)
    exact taken.fails_of_unsent execute_mem_planOf unsent
  case copied =>
    intro _ _ hverb hcompletion
    have unsent : client.sends turn.script .commit = false :=
      Bool.eq_false_iff.2 fun sent => (documented.sends_commit_iff turn.script).1 sent hcompletion
    exact (taken.fails_of_unsent (commit_mem_planOf_iff.2 (Route.ofVerb_of_ne_select hverb)) unsent).2
  case plain_select =>
    intro text plain hverb
    obtain rfl := same text plain.text
    have sent := documented.sends_of_plain plain
    rw [select hverb, List.takeWhile_eq_self_iff.2 fun request h => sent request (List.mem_cons_of_mem _ h)]
  case plain_write =>
    intro text plain hverb hcompletion
    obtain rfl := same text plain.text
    have sent : ∀ request ∈ [.begin, .prepare text, .execute, .commit], client.sends turn.script request = true :=
      List.forall_mem_append.2 ⟨documented.sends_of_plain plain, by simpa [documented.sends_commit_iff]⟩
    have whole := write hverb
    rwa [List.takeWhile_eq_self_iff.2 sent] at whole

theorem Turn.settles (documented : client.Documented) (turn : Turn) (status : Status) :
    turn.Settles client status (turn.run client status) := by
  cases htext : turn.text with
  | error e => exact Turn.run_of_text_error htext ▸ Turn.settles_of_text_error htext
  | ok sql => exact Turn.settles_of_text_ok documented htext

/-! ## Whole sessions -/

/-- The turns of a session settle one by one, each in the state that the one before has left. -/
inductive Settled (client : Client) : Status → List Turn → List (Report Status) → Prop
  | nil (status : Status) : Settled client status [] []
  | cons {status : Status} {turn : Turn} {report : Report Status} {turns : List Turn}
      {reports : List (Report Status)} (first : turn.Settles client status report)
      (rest : Settled client report.state turns reports) : Settled client status (turn :: turns) (report :: reports)

theorem runAll_settled (documented : client.Documented) (turns : List Turn) (status : Status) :
    Settled client status turns (runAll client status turns) := by
  induction turns generalizing status with
  | nil => exact .nil status
  | cons turn turns ih => exact .cons (turn.settles documented status) (ih _)

/-- A read does not open a transaction by its text. -/
def Turn.Contained (turn : Turn) : Prop :=
  turn.statement.verb? = some .select → turn.script.leaves .idle = .idle

theorem Turn.Contained.state_idle (contained : turn.Contained) : (turn.run client .idle).state = .idle := by
  cases htext : turn.text with
  | error e => rw [Turn.run_of_text_error htext]
  | ok sql =>
    refine (Turn.run_takes htext).state_idle fun hroute => ⟨rfl, contained (Decidable.byContradiction fun hverb => ?_)⟩
    rw [Route.ofVerb_of_ne_select hverb] at hroute
    cases hroute

theorem runAll_eq_map {turns : List Turn} (contained : ∀ turn ∈ turns, turn.Contained) :
    runAll client .idle turns = turns.map (·.run client .idle) := by
  -- Every turn leaves the session as it found it, so the next one starts from the same state.
  induction turns with
  | nil => rfl
  | cons turn turns ih =>
    rw [List.forall_mem_cons] at contained
    rw [runAll, contained.1.state_idle, ih contained.2]
    rfl

theorem received_cases (origin : Origin) (reports : List (Report Status)) :
    received origin reports = reports.flatMap Report.requests ∨
      origin = .pooled ∧ received origin reports ++ [.rollback] = reports.flatMap Report.requests := by
  have sent : (reports.flatMap Report.journal).filterMap Entry.request? = reports.flatMap Report.requests :=
    List.filterMap_flatMap
  cases origin with
  | direct => exact .inl sent
  | pooled =>
    rw [received, sent]
    by_cases last : (reports.flatMap Report.requests).getLast? = some .rollback
    · refine .inr ⟨rfl, ?_⟩
      rw [if_pos last]
      exact List.dropLast_append_getLast? _ last
    · exact .inl (if_neg last)

end Session

/-- Statements that are run one after the other through a documented client library settle one by one. If no read opens
a transaction by its text, none depends on those before it. The server has received their requests in order; a pooled
session can lose a rollback at its very end. -/
theorem runAll_settles (client : Session.Client) (documented : client.Documented) (turns : List Session.Turn) :
    Session.Settled client .idle turns (Session.runAll client .idle turns) ∧
    ((∀ turn ∈ turns, turn.Contained) →
      Session.runAll client .idle turns = turns.map (·.run client .idle) ∧
      ∀ turn ∈ turns, (turn.run client .idle).state = .idle) ∧
    ∀ origin, Session.received origin (Session.runAll client .idle turns) =
        (Session.runAll client .idle turns).flatMap Report.requests ∨
      origin = .pooled ∧ Session.received origin (Session.runAll client .idle turns) ++ [.rollback] =
        (Session.runAll client .idle turns).flatMap Report.requests := by
  refine ⟨Session.runAll_settled documented turns .idle, fun contained => ?_,
    fun origin => Session.received_cases origin _⟩
  exact ⟨Session.runAll_eq_map contained, fun turn h => (contained turn h).state_idle⟩

/-- A delete from a table whose name cannot be sent. -/
def unsendableDelete : Session.Turn where
  statement := ⟨.ofList [.verb .delete, .table "t\x00"], {}⟩

/-- A delete that asks for a value. -/
def boundDelete : Session.Turn where
  statement := ⟨.ofList [.verb .delete, .table "t", .filter (.text "id = $1")], {}⟩
  script := { parameters := 1 }

/-- A text of the caller in a transaction of its own, which the server answers with the rows of a table. -/
def copying : Session.Turn where
  statement := ⟨.ofList [], {}⟩
  command := .given "COPY t TO STDOUT"
  script := { completion := none }

def plainDelete (script : Session.Script) : Session.Turn where
  statement := ⟨.ofList [.verb .delete, .table "t"], {}⟩
  script := script

/-- A read by a text of the caller. -/
def reading (sql : String) (script : Session.Script) : Session.Turn where
  statement := ⟨.ofList [.verb .select], {}⟩
  command := .given sql
  script := script

/-- Writes and a read, in each of which something else goes wrong, and a write that goes well. -/
def mixedSession : List Session.Turn :=
  [unsendableDelete, boundDelete, copying, plainDelete { refuses := some .commit },
    reading "SELECT 1" { refuses := some .execute }, plainDelete { completion := some "DELETE 2" }]

theorem mixedSession_settles :
    Session.Client.standard.Documented ∧ (∀ turn ∈ mixedSession, turn.Contained) ∧
    Session.Settled .standard .idle mixedSession (Session.runAll .standard .idle mixedSession) ∧
    (Session.runAll .standard .idle mixedSession).map Report.requests =
      [[.begin, .rollback],
        [.begin, .prepare "DELETE FROM t WHERE id = $1", .rollback],
        [.begin, .prepare "COPY t TO STDOUT", .execute, .rollback],
        [.begin, .prepare "DELETE FROM t", .execute, .commit],
        [.prepare "SELECT 1", .execute],
        [.begin, .prepare "DELETE FROM t", .execute, .commit]] ∧
    (Session.runAll .standard .idle mixedSession).map Report.result =
      [.error (.execution .unsendable),
        .error (.execution (.described "expected 1 parameters but got 0")),
        .error (.execution (.described "unexpected message from server")),
        .error (.commit .refused),
        .error (.execution .refused),
        .ok (.count 2)] := by
  have contained : ∀ turn ∈ mixedSession, turn.Contained := by
    simp only [mixedSession, List.forall_mem_cons]
    exact ⟨fun _ => rfl, fun _ => rfl, fun _ => rfl, fun _ => rfl, fun _ => rfl, fun _ => rfl, by simp⟩
  obtain ⟨settled, independent, -⟩ :=
    runAll_settles .standard Session.Client.standard_documented mixedSession
  obtain ⟨eq_map, -⟩ := independent contained
  refine ⟨Session.Client.standard_documented, contained, settled, ?_, ?_⟩
  · rw [eq_map]
    rfl
  · rw [eq_map]
    rfl

/-- The server refuses nothing of a write, and still these requests are all that is sent of it. -/
def Session.Turn.EndsEarly (turn : Session.Turn) (sql : String) (requests : List Request) : Prop :=
  turn.text = .ok sql ∧ turn.statement.verb? ≠ some .select ∧ turn.script.refuses = none ∧
    (turn.run .standard .idle).requests = requests ∧
    ∃ fault, (turn.run .standard .idle).result = .error (.execution fault)

/-- A read whose text opens a transaction, one that the server may refuse, and one more. -/
def openedSession (refuses : Option Session.Step) : List Session.Turn :=
  [reading "BEGIN" { leaves := fun _ => .active }, reading "SELECT 1" { refuses := refuses }, reading "SELECT 2" {}]

/-- Some writes are not committed although the server refuses nothing. And once a text has opened a transaction, a
refused request changes the result of the statement behind it. -/
theorem plans_not_always_followed :
    unsendableDelete.EndsEarly "DELETE FROM t\x00" [.begin, .rollback] ∧
    boundDelete.EndsEarly "DELETE FROM t WHERE id = $1"
      [.begin, .prepare "DELETE FROM t WHERE id = $1", .rollback] ∧
    copying.EndsEarly "COPY t TO STDOUT" [.begin, .prepare "COPY t TO STDOUT", .execute, .rollback] ∧
    (¬ ∀ (turn : Session.Turn) (sql : String), turn.text = .ok sql → turn.statement.verb? ≠ some .select →
      turn.script.upToRefused .idle [.begin, .prepare sql, .execute, .commit] <+:
        (turn.run .standard .idle).requests) ∧
    ((Session.runAll .standard .idle (openedSession none)).map Report.result)[2]? = some (.ok (.rows [])) ∧
    ((Session.runAll .standard .idle (openedSession (some .execute))).map Report.result)[2]? =
      some (.error (.execution .refused)) := by
  have unsent : unsendableDelete.EndsEarly "DELETE FROM t\x00" [.begin, .rollback] :=
    ⟨rfl, by decide, rfl, rfl, _, rfl⟩
  have unbound : boundDelete.EndsEarly "DELETE FROM t WHERE id = $1"
      [.begin, .prepare "DELETE FROM t WHERE id = $1", .rollback] := ⟨rfl, by decide, rfl, rfl, _, rfl⟩
  have uncounted : copying.EndsEarly "COPY t TO STDOUT"
      [.begin, .prepare "COPY t TO STDOUT", .execute, .rollback] := ⟨rfl, by decide, rfl, rfl, _, rfl⟩
  refine ⟨unsent, unbound, uncounted, ?_, rfl, rfl⟩
  intro all
  obtain ⟨text, hverb, -, requests, -⟩ := unbound
  have whole := all boundDelete _ text hverb
  rw [requests] at whole
  exact absurd whole (by decide)

end SqlBuilder

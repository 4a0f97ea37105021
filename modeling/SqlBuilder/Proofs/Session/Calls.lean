import SqlBuilder.Proofs.Session.Course

/-!
# Calls

The two kinds of call follow a plan each, and a write that does not get to its commit is undone.

* `Follows` : a dialogue that goes on by a plan. Every piece of a call does (`follows_change`).
* `planOf`, `ending`, `Client.result` : the plan of a call, what follows it, and what the call gives.
* `Takes` : the course of a whole call. `takes_query` and `takes_transact` say that the calls take it.
-/

namespace SqlBuilder.Session

set_option autoImplicit false

variable {client : Client} {script : Script} {status last : Status} {request : Request}
  {plan more : List Request} {answers : List (Request × Bool)} {stop : Option Stop}

/-! ## Dialogues -/

section Dialogues

variable {α : Type} {d : Dialogue} {answer : Except ServerFault α}

/-- What a plan gives that is asked for an answer. -/
def outcomeOf (stop : Option Stop) (answer : Except ServerFault α) : Except ServerFault α :=
  match stop with
  | none => answer
  | some stop => .error stop.fault

/-- A dialogue goes on by a plan, and then there is an answer unless the plan was ended. -/
def Follows (client : Client) (script : Script) (d : Dialogue) (plan : List Request) (answer : Except ServerFault α)
    (outcome : Except ServerFault α × Dialogue) : Prop :=
  ∃ answers stop, Course client script d.status plan answers stop outcome.2.status ∧
    outcome.2.entries = d.entries ++ answers.map (fun answer => .requested answer.1) ∧
    outcome.1 = outcomeOf stop answer

theorem follows_answer (d : Dialogue) (answer : Except ServerFault α) :
    Follows client script d [] answer (answer, d) :=
  ⟨[], none, .done _, (List.append_nil _).symm, rfl⟩

theorem follows_unsent {fault : ServerFault} (hsend : client.obstacle? script request = some fault) :
    Follows client script d [request] (.ok ()) (.error fault, d) :=
  ⟨[], some (.unsent fault), .unsent hsend, (List.append_nil _).symm, rfl⟩

theorem follows_send (d : Dialogue) (hsend : client.obstacle? script request = none) :
    Follows client script d [request] (.ok ()) (d.send script request) := by
  unfold Dialogue.send
  cases h : script.accepts d.status request with
  | false => exact ⟨_, _, .refused hsend h, rfl, rfl⟩
  | true => exact ⟨_, _, .accepted hsend h (.done _), rfl, rfl⟩

theorem follows_prepare (d : Dialogue) (sql : String) :
    Follows client script d [.prepare sql] (.ok ()) (d.prepare client script sql) := by
  unfold Dialogue.prepare
  split
  case h_1 fault hsend => exact follows_unsent hsend
  case h_2 hsend => exact follows_send d hsend

theorem follows_execute (d : Dialogue) : Follows client script d [.execute] (.ok ()) (d.execute client script) := by
  unfold Dialogue.execute
  split
  case h_1 fault hsend => exact follows_unsent hsend
  case h_2 hsend => exact follows_send d hsend

/-- One plan after the other, the second only if the first was not ended. -/
theorem Follows.andThen {outcome : Except ServerFault Unit × Dialogue}
    {next : Dialogue → Except ServerFault α × Dialogue} (first : Follows client script d plan (.ok ()) outcome)
    (second : ∀ d', Follows client script d' more answer (next d')) :
    Follows client script d (plan ++ more) answer (andThen outcome next) := by
  obtain ⟨result, d'⟩ := outcome
  obtain ⟨answers, stop, course, entries, hresult⟩ := first
  cases stop with
  | some stop =>
    obtain rfl : result = .error stop.fault := hresult
    exact ⟨answers, some stop, course.extend more, entries, rfl⟩
  | none =>
    obtain rfl : result = .ok () := hresult
    obtain ⟨later, stop, goes, further, hlast⟩ := second d'
    refine ⟨answers ++ later, stop, course.append goes, ?_, hlast⟩
    calc (next d').2.entries
        = d'.entries ++ later.map (fun answer => .requested answer.1) := further
      _ = d.entries ++ (answers ++ later).map (fun answer => .requested answer.1) := by
          rw [entries, List.map_append, List.append_assoc]

theorem follows_prepareAndExecute (d : Dialogue) (sql : String) (answer : Except ServerFault α) :
    Follows client script d [.prepare sql, .execute] answer (prepareAndExecute client script sql answer d) :=
  (follows_prepare d sql).andThen fun d => (follows_execute d).andThen fun d => follows_answer d answer

theorem follows_change (d : Dialogue) (sql : String) :
    Follows client script d [.begin, .prepare sql, .execute] (client.changed script.completion)
      (change client script sql d) :=
  (follows_send d rfl).andThen fun d => follows_prepareAndExecute d sql _

end Dialogues

/-! ## Calls -/

/-- The requests of a call of which none fails. -/
def planOf (route : Route) (sql : String) : List Request :=
  match route with
  | .read => [.prepare sql, .execute]
  | .write => [.begin, .prepare sql, .execute, .commit]

theorem begin_mem_planOf_iff {route : Route} {sql : String} : .begin ∈ planOf route sql ↔ route = .write := by
  cases route <;> simp [planOf]

theorem prepare_mem_planOf {route : Route} {sql : String} : .prepare sql ∈ planOf route sql := by
  cases route <;> simp [planOf]

theorem execute_mem_planOf {route : Route} {sql : String} : .execute ∈ planOf route sql := by
  cases route <;> simp [planOf]

theorem commit_mem_planOf_iff {route : Route} {sql : String} : .commit ∈ planOf route sql ↔ route = .write := by
  cases route <;> simp [planOf]

/-- The commit is the last request of a plan. -/
theorem commit_not_mem_dropLast {route : Route} {sql : String} : .commit ∉ (planOf route sql).dropLast := by
  cases route <;> simp [planOf]

theorem planOf_eq_append {route : Route} {sql : String} (h : request ∈ planOf route sql) :
    ∃ before after, planOf route sql = before ++ request :: after ∧ request ∉ before ∧ .commit ∉ before := by
  obtain ⟨before, after, hplan, hrequest⟩ := List.eq_append_cons_of_mem h
  refine ⟨before, after, hplan, hrequest, fun hcommit => ?_⟩
  have late : .commit ∉ (planOf route sql).dropLast := commit_not_mem_dropLast
  rw [hplan, List.dropLast_append_of_ne_nil (List.cons_ne_nil request after)] at late
  exact late (List.mem_append_left _ hcommit)

/-- What follows the requests of a plan. A write that did not get to its commit is undone. -/
def ending (route : Route) (requests : List Request) : List Request :=
  match route with
  | .read => []
  | .write => if .commit ∈ requests then [] else [.rollback]

/-- What the client reads when nothing has ended the plan. -/
def Client.answer (client : Client) (script : Script) (route : Route) : Except ServerFault Answer :=
  match route with
  | .read => (client.selected script.columns script.cells).map .rows
  | .write => (client.changed script.completion).map .count

/-- What a call gives whose plan was ended, or was not. -/
def Client.result (client : Client) (script : Script) (route : Route) : Option Stop → Except StatementError Answer
  | none => (client.answer script route).mapError .execution
  | some (.refused .commit) => .error (.commit .refused)
  | some stop => .error (.execution stop.fault)

/-- The course of a whole call: its result, its requests, and the state it leaves. -/
inductive Takes (client : Client) (script : Script) (sql : String) (status : Status) (route : Route) :
    Except StatementError Answer → List Request → Status → Prop
  | intro {answers : List (Request × Bool)} {stop : Option Stop} {last state : Status}
      (course : Course client script status (planOf route sql) answers stop last)
      (hstate : state = match route with | .read => last | .write => .idle) :
      Takes client script sql status route (client.result script route stop)
        (answers.map Prod.fst ++ ending route (answers.map Prod.fst)) state

section Calls

variable {sql : String} {route : Route}

theorem requests_of_answers (answers : List (Request × Bool)) :
    (answers.map fun answer => Entry.requested answer.1).filterMap Entry.request? = answers.map Prod.fst := by
  rw [List.filterMap_map]
  exact congrFun List.filterMap_eq_map answers

theorem result_of_ne {stop : Stop} (hstop : stop ≠ .refused .commit) :
    client.result script route (some stop) = .error (.execution stop.fault) := by
  unfold Client.result
  split
  case h_1 h => cases h
  case h_2 h => exact absurd (Option.some.inj h) hstop
  case h_3 h => rw [Option.some.inj h]

/-! ### Reading -/

theorem query_eq (d : Dialogue) :
    query client script sql d =
      ((prepareAndExecute client script sql (client.selected script.columns script.cells) d).1.mapError .execution,
        (prepareAndExecute client script sql (client.selected script.columns script.cells) d).2) := by
  rw [query]
  cases prepareAndExecute client script sql (client.selected script.columns script.cells) d with
  | mk result d => cases result <;> rfl

/-- A read is never ended at a commit. -/
theorem result_read (course : Course client script status (planOf .read sql) answers stop last) :
    ((outcomeOf stop (client.selected script.columns script.cells)).mapError .execution).map .rows =
      client.result script .read stop := by
  cases stop with
  | none =>
    rw [outcomeOf, Client.result, Client.answer]
    cases client.selected script.columns script.cells <;> rfl
  | some stop =>
    have hstop : stop ≠ .refused .commit := fun same => course.stop_ne_refused (by simp [planOf]) (congrArg some same)
    rw [result_of_ne hstop]
    rfl

theorem takes_query (client : Client) (script : Script) (sql : String) (status : Status) :
    Takes client script sql status .read ((query client script sql ⟨status, []⟩).1.map .rows)
      ((query client script sql ⟨status, []⟩).2.entries.filterMap Entry.request?)
      (query client script sql ⟨status, []⟩).2.status := by
  have followed : Follows client script ⟨status, []⟩ _ _ _ :=
    follows_prepareAndExecute ⟨status, []⟩ sql (client.selected script.columns script.cells)
  obtain ⟨answers, stop, course, entries, result⟩ := followed
  have taken : Takes client script sql status .read _ _ _ := .intro course rfl
  rw [ending, List.append_nil] at taken
  rw [query_eq, result, entries, List.nil_append, requests_of_answers, result_read course]
  exact taken

/-! ### Writing -/

/-- Behind an accepted commit nothing is left to end the plan. -/
theorem stop_eq_none_of_commit (course : Course client script status (planOf route sql) answers stop last)
    (h : (.commit, true) ∈ answers) : stop = none := by
  cases stop with
  | none => rfl
  | some stop => exact absurd (course.mem_dropLast h) commit_not_mem_dropLast

theorem undo_eq (script : Script) (d : Dialogue) :
    d.undo script = ⟨.idle, d.entries ++ [.requested .rollback]⟩ := by
  rw [Dialogue.undo, Dialogue.send, accepts_rollback]
  rfl

theorem transact_of_error {d d' : Dialogue} {fault : ServerFault}
    (h : change client script sql d = (.error fault, d')) :
    transact client script sql d = (.error (.execution fault), ⟨.idle, d'.entries ++ [.requested .rollback]⟩) := by
  rw [transact, h, ← undo_eq]

theorem transact_of_ok {d d' : Dialogue} {n : Nat} (h : change client script sql d = (.ok n, d')) :
    transact client script sql d =
      if script.accepts d'.status .commit then (.ok n, ⟨.idle, d'.entries ++ [.requested .commit]⟩)
      else (.error (.commit .refused),
        ⟨.idle, d'.entries ++ [.requested .commit, .event (commitEvent .refused)]⟩) := by
  rw [transact, h]
  cases hcommit : script.accepts d'.status .commit <;>
    simp [Dialogue.send, hcommit, Dialogue.note, Script.after]

/-- Without a count a write is ended before its commit. -/
theorem course_of_error {fault : ServerFault}
    (course : Course client script status [.begin, .prepare sql, .execute] answers stop last)
    (h : outcomeOf stop (client.changed script.completion) = .error fault) :
    ∃ stop : Stop, stop ≠ .refused .commit ∧ stop.fault = fault ∧
      Course client script status (planOf .write sql) answers (some stop) last := by
  cases stop with
  | some stop =>
    have hstop : stop ≠ .refused .commit := fun same => course.stop_ne_refused (by simp) (congrArg some same)
    exact ⟨stop, hstop, Except.error.inj h, course.extend [.commit]⟩
  | none =>
    have unread : client.changed script.completion = .error fault := h
    have hsend : client.obstacle? script .commit = some fault := by rw [Client.obstacle?, unread]
    have ended : Course client script status ([.begin, .prepare sql, .execute] ++ [.commit]) _ _ _ :=
      course.append (.unsent hsend)
    rw [List.append_nil] at ended
    exact ⟨.unsent fault, Stop.noConfusion, rfl, ended⟩

/-- With a count a write gets to its commit. -/
theorem counted_of_ok {n : Nat} (h : outcomeOf stop (client.changed script.completion) = .ok n) :
    stop = none ∧ client.changed script.completion = .ok n := by
  cases stop with
  | some stop => cases h
  | none => exact ⟨rfl, h⟩

theorem takes_undone {stop : Stop} (hstop : stop ≠ .refused .commit)
    (course : Course client script status (planOf .write sql) answers (some stop) last) :
    Takes client script sql status .write (.error (.execution stop.fault)) (answers.map Prod.fst ++ [.rollback])
      .idle := by
  have uncommitted : .commit ∉ answers.map Prod.fst := by
    intro h
    obtain ⟨⟨_, accepted⟩, hmem, rfl⟩ := List.mem_map.1 h
    cases accepted with
    | true => cases stop_eq_none_of_commit course hmem
    | false => exact hstop (Option.some.inj (course.refused_mem_iff.1 hmem))
  have taken : Takes client script sql status .write _ _ _ := .intro course rfl
  rwa [result_of_ne hstop, ending, if_neg uncommitted] at taken

theorem takes_tried {accepted : Bool}
    (course : Course client script status ([.begin, .prepare sql, .execute] ++ [.commit])
      (answers ++ [(.commit, accepted)]) stop last) :
    Takes client script sql status .write (client.result script .write stop) (answers.map Prod.fst ++ [.commit])
      .idle := by
  have tried : Request.commit ∈ (answers ++ [(Request.commit, accepted)]).map Prod.fst :=
    List.mem_map_of_mem (List.mem_append_right _ List.mem_cons_self)
  have taken : Takes client script sql status .write _ _ _ := .intro course rfl
  rwa [ending, if_pos tried, List.append_nil, List.map_append] at taken

theorem takes_transact (client : Client) (script : Script) (sql : String) (status : Status) :
    Takes client script sql status .write ((transact client script sql ⟨status, []⟩).1.map .count)
      ((transact client script sql ⟨status, []⟩).2.entries.filterMap Entry.request?)
      (transact client script sql ⟨status, []⟩).2.status := by
  have followed : Follows client script ⟨status, []⟩ _ _ _ := follows_change ⟨status, []⟩ sql
  cases changed : change client script sql ⟨status, []⟩ with
  | mk result d =>
    rw [changed] at followed
    obtain ⟨answers, stop, course, entries, outcome⟩ := followed
    have requests : d.entries.filterMap Entry.request? = answers.map Prod.fst := by
      rw [entries, List.nil_append, requests_of_answers]
    cases result with
    | error fault =>
      obtain ⟨stop, hstop, rfl, ended⟩ := course_of_error course outcome.symm
      rw [transact_of_error changed, List.filterMap_append, requests]
      exact takes_undone hstop ended
    | ok n =>
      obtain ⟨rfl, counted⟩ := counted_of_ok outcome.symm
      have hsend : client.obstacle? script .commit = none := by rw [Client.obstacle?, counted]
      rw [transact_of_ok changed]
      cases hcommit : script.accepts d.status .commit with
      | false =>
        rw [if_neg Bool.false_ne_true, List.filterMap_append, requests]
        exact takes_tried (course.append (.refused hsend hcommit))
      | true =>
        have result : client.result script .write none = .ok (.count n) := by
          rw [Client.result, Client.answer, counted]
          rfl
        rw [if_pos rfl, List.filterMap_append, requests]
        have taken := takes_tried (course.append (.accepted hsend hcommit (.done _)))
        rwa [result] at taken

end Calls

/-! ## What a call comes to -/

/-- Whether a request closes a transaction. -/
def closes : Request → Bool
  | .commit | .rollback => true
  | .begin | .prepare _ | .execute => false

section Ending

variable {route : Route} {requests : List Request}

theorem eq_rollback_of_mem_ending (h : request ∈ ending route requests) : request = .rollback := by
  unfold ending at h
  split at h
  · cases h
  · split at h
    · cases h
    · exact List.mem_singleton.1 h

theorem answers_ending (script : Script) (status : Status) :
    script.answers status (ending route requests) = (ending route requests).map fun request => (request, true) := by
  unfold ending
  split
  · rfl
  · split
    · rfl
    · rw [Script.answers, accepts_rollback]
      rfl

theorem ending_congr {others : List Request} (h : .commit ∈ requests ↔ .commit ∈ others) :
    ending route requests = ending route others := by
  cases route with
  | read => rfl
  | write => simp only [ending, h]

theorem mem_append_ending_iff (h : request ≠ .rollback) :
    request ∈ requests ++ ending route requests ↔ request ∈ requests := by
  rw [List.mem_append, or_iff_left fun undone => h (eq_rollback_of_mem_ending undone)]

theorem mem_answers_iff (course : Course client script status plan answers stop last) {answer : Request × Bool}
    (h : answer ≠ (.rollback, true)) :
    answer ∈ script.answers status (answers.map Prod.fst ++ ending route requests) ↔ answer ∈ answers := by
  rw [course.answers_append, answers_ending, List.mem_append, or_iff_left]
  intro undone
  obtain ⟨request, hmem, rfl⟩ := List.mem_map.1 undone
  exact h (by rw [eq_rollback_of_mem_ending hmem])

end Ending

/-- A call gives a count iff it is a write whose plan is not ended and whose count can be read. -/
theorem result_eq_count_iff {route : Route} {n : Nat} :
    client.result script route stop = .ok (.count n) ↔
      stop = none ∧ route = .write ∧ client.changed script.completion = .ok n := by
  constructor
  · intro h
    cases stop with
    | some stop =>
      unfold Client.result at h
      split at h
      case h_1 none => cases none
      case h_2 | h_3 => cases h
    | none =>
      cases route with
      | read =>
        rw [Client.result, Client.answer] at h
        cases hrows : client.selected script.columns script.cells <;> rw [hrows] at h <;> cases h
      | write =>
        rw [Client.result, Client.answer] at h
        cases hchanged : client.changed script.completion <;> rw [hchanged] at h <;> cases h
        exact ⟨rfl, rfl, rfl⟩
  · rintro ⟨rfl, rfl, h⟩
    rw [Client.result, Client.answer, h]
    rfl

/-- Behind its begin a write is closed once, by its commit or by the rollback. -/
theorem countP_closes {sql : String}
    (course : Course client script status [.prepare sql, .execute, .commit] answers stop last) :
    (answers ++ (ending .write (answers.map Prod.fst)).map fun request => (request, true)).countP
      (fun answer => closes answer.1) = 1 := by
  have onlyCommit : ∀ request ∈ answers.map Prod.fst, closes request = true ↔ (request == .commit) = true := by
    intro request h
    have inPlan := course.prefix_plan.mem h
    simp only [List.mem_cons, List.not_mem_nil, or_false] at inPlan
    rcases inPlan with rfl | rfl | rfl <;> simp [closes]
  have closing : answers.countP (fun answer => closes answer.1) = (answers.map Prod.fst).count .commit := by
    rw [List.count, ← List.countP_congr onlyCommit, List.countP_map]
    rfl
  have once : (answers.map Prod.fst).count .commit ≤ 1 := course.prefix_plan.sublist.count_le _
  rw [List.countP_append, closing, ending]
  split
  case isTrue h => exact Nat.le_antisymm once (List.count_pos_iff.2 h)
  case isFalse h =>
    rw [List.count_eq_zero.2 h]
    rfl

namespace Takes

variable {route : Route} {sql : String} {result : Except StatementError Answer} {requests : List Request}
  {state : Status}

theorem requests_eq (taken : Takes client script sql status route result requests state) :
    requests = script.upToRefused status ((planOf route sql).takeWhile (client.sends script)) ++
      ending route requests := by
  cases taken with
  | @intro answers _ _ _ course =>
    rw [ending_congr (mem_append_ending_iff (by simp)), course.requests_eq]

theorem state_idle (taken : Takes client script sql status route result requests state)
    (h : route = .read → status = .idle ∧ script.leaves .idle = .idle) : state = .idle := by
  cases taken with
  | intro course hstate =>
    cases route with
    | read =>
      obtain ⟨hstatus, contained⟩ := h rfl
      exact hstate.trans (course.stays_idle hstatus (by simp [planOf]) contained)
    | write => exact hstate

theorem count (taken : Takes client script sql status route result requests state) {n : Nat}
    (h : result = .ok (.count n)) : client.changed script.completion = .ok n := by
  cases taken
  exact (result_eq_count_iff.1 h).2.2

theorem count_iff (taken : Takes client script sql status route result requests state) :
    (∃ n, result = .ok (.count n)) ↔ (.commit, true) ∈ script.answers status requests := by
  cases taken with
  | @intro _ stop _ _ course =>
    rw [mem_answers_iff course (by simp)]
    constructor
    · rintro ⟨n, h⟩
      obtain ⟨rfl, rfl, -⟩ := result_eq_count_iff.1 h
      simp [course.complete, planOf]
    · intro h
      obtain ⟨planned, sent⟩ := course.mem_plan h
      obtain rfl : route = .write := commit_mem_planOf_iff.1 planned
      obtain rfl := stop_eq_none_of_commit course h
      cases hchanged : client.changed script.completion with
      | error fault => simp [Client.sends, Client.obstacle?, hchanged] at sent
      | ok n => exact ⟨n, result_eq_count_iff.2 ⟨rfl, rfl, hchanged⟩⟩

theorem result_of_commit_refused (taken : Takes client script sql status route result requests state)
    (h : (.commit, false) ∈ script.answers status requests) : result = .error (.commit .refused) := by
  cases taken with
  | intro course =>
    rw [mem_answers_iff course (by simp), course.refused_mem_iff] at h
    rw [h, Client.result]

theorem result_of_refused (taken : Takes client script sql status route result requests state)
    (h : (request, false) ∈ script.answers status requests) (hrequest : request ≠ .commit) :
    result = .error (.execution .refused) := by
  cases taken with
  | intro course =>
    rw [mem_answers_iff course (by simp), course.refused_mem_iff] at h
    rw [h, result_of_ne (fun same => hrequest (Stop.refused.inj same)), Stop.fault]

theorem result_of_unsent (taken : Takes client script sql status route result requests state)
    (h : ∀ answer ∈ script.answers status requests, answer.2 = true) {fault : ServerFault}
    (hsend : (planOf route sql).findSome? (client.obstacle? script) = some fault) :
    result = .error (.execution fault) := by
  cases taken with
  | @intro answers _ _ _ course =>
    have accepted : ∀ answer ∈ answers, answer.2 = true := by
      intro answer hmem
      refine h answer ?_
      rw [course.answers_append]
      exact List.mem_append_left _ hmem
    rw [course.stop_of_obstacle accepted hsend, result_of_ne Stop.noConfusion, Stop.fault]

/-- A call does not get past a request that the client does not send. -/
theorem fails_of_unsent (taken : Takes client script sql status route result requests state)
    (h : request ∈ planOf route sql) (hsend : client.sends script request = false) :
    request ∉ requests ∧ .commit ∉ requests ∧ ∃ fault, result = .error (.execution fault) := by
  obtain ⟨before, after, hplan, hrequest, hcommit⟩ := planOf_eq_append h
  have hrollback : request ≠ .rollback := by
    rintro rfl
    cases route <;> simp [planOf] at h
  cases taken with
  | @intro answers stop _ _ course =>
    rw [hplan] at course
    have reached : ∀ other ∉ before, other ∉ answers.map Prod.fst := fun _ => mt (course.mem_before hsend)
    rw [mem_append_ending_iff hrollback, mem_append_ending_iff (by simp)]
    refine ⟨reached _ hrequest, reached _ hcommit, ?_⟩
    obtain ⟨stop, rfl⟩ := course.exists_stop hsend
    have hstop : stop ≠ .refused .commit := by
      rintro rfl
      exact reached _ hcommit (List.mem_map_of_mem (course.refused_mem_iff.2 rfl))
    exact ⟨stop.fault, result_of_ne hstop⟩

theorem closed (taken : Takes client script sql status route result requests state)
    {before after : List (Request × Bool)}
    (h : script.answers status requests = before ++ (.begin, true) :: after) :
    after.countP (fun answer => closes answer.1) = 1 := by
  have begun : (.begin, true) ∈ script.answers status requests := by
    rw [h]
    exact List.mem_append_right _ List.mem_cons_self
  cases taken with
  | intro course =>
    rw [mem_answers_iff course (by simp)] at begun
    obtain rfl : route = .write := begin_mem_planOf_iff.1 (course.mem_plan begun).1
    rw [course.answers_append, answers_ending] at h
    cases course with
    | unsent | refused => simp at begun
    | @accepted _ _ _ _ answers _ _ _ rest =>
      have same : ending .write (.begin :: answers.map Prod.fst) = ending .write (answers.map Prod.fst) :=
        ending_congr (by simp)
      rw [List.map_cons, same, List.cons_append] at h
      cases before with
      | nil => exact (List.cons.inj h).2 ▸ countP_closes rest
      | cons answer before =>
        have again : (.begin, true) ∈
            answers ++ (ending .write (answers.map Prod.fst)).map fun request => (request, true) := by
          rw [(List.cons.inj h).2]
          exact List.mem_append_right _ List.mem_cons_self
        rcases List.mem_append.1 again with earlier | undone
        · exact absurd (rest.mem_plan earlier).1 (by simp)
        · obtain ⟨request, hmem, same⟩ := List.mem_map.1 undone
          obtain rfl := eq_rollback_of_mem_ending hmem
          cases same

end Takes

end SqlBuilder.Session

import SqlBuilder.Session.Dialogue

/-!
# The course of a call

A call of a session follows a plan of requests until the server refuses one or the client does not send one. How far a
plan gets is told here without the dialogue, by what the server answers.

* `Script.answers`, `Script.upToRefused` : what the server answers to requests, and how far it lets a plan get.
* `Client.obstacle?`, `Client.sends` : which requests of a plan are not sent.
* `Course` : how a plan goes; `Course.requests_eq` and `Course.answers_append` tell it in other words.
-/

namespace SqlBuilder.Session

set_option autoImplicit false

/-! ## What the server answers -/

/-- Each request with whether the server accepts it. -/
def Script.answers (script : Script) (status : Status) : List Request → List (Request × Bool)
  | [] => []
  | request :: requests =>
    let accepted := script.accepts status request
    (request, accepted) :: script.answers (script.after status request accepted) requests

/-- The requests of a plan up to the first one that the server refuses. -/
def Script.upToRefused (script : Script) (status : Status) : List Request → List Request
  | [] => []
  | request :: plan =>
    if script.accepts status request then request :: script.upToRefused (script.after status request true) plan
    else [request]

theorem mem_of_mem_upToRefused {script : Script} {request : Request} {plan : List Request} {status : Status}
    (h : request ∈ script.upToRefused status plan) : request ∈ plan := by
  induction plan generalizing status with
  | nil => exact h
  | cons next plan ih =>
    rw [Script.upToRefused] at h
    split at h
    · rcases List.mem_cons.1 h with rfl | later
      · exact List.mem_cons_self
      · exact List.mem_cons_of_mem _ (ih later)
    · exact List.mem_singleton.1 h ▸ List.mem_cons_self

/-- Undoing is never refused. -/
theorem accepts_rollback (script : Script) (status : Status) : script.accepts status .rollback = true := by
  have opposed : (script.refuses.isNone || script.refuses != none) = true := by
    cases script.refuses <;> rfl
  rw [Script.accepts, stepOf?, opposed]
  exact Bool.or_true _

/-! ## What the client sends -/

/-- Why a request is not sent although all before it were accepted. A commit is not sent when the client cannot read
how many rows were changed. -/
def Client.obstacle? (client : Client) (script : Script) : Request → Option ServerFault
  | .prepare sql => client.unprepared? sql
  | .execute => client.unexecuted? script.parameters
  | .commit =>
    match client.changed script.completion with
    | .error fault => some fault
    | .ok _ => none
  | .begin | .rollback => none

def Client.sends (client : Client) (script : Script) (request : Request) : Bool :=
  (client.obstacle? script request).isNone

/-- What ends a plan before its time. -/
inductive Stop where
  | unsent (fault : ServerFault)
  | refused (request : Request)

def Stop.fault : Stop → ServerFault
  | unsent fault => fault
  | refused _ => .refused

/-! ## Courses -/

variable {client : Client} {script : Script} {status mid last : Status} {request : Request}
  {plan more : List Request} {answers later : List (Request × Bool)} {stop : Option Stop}

/-- How a plan goes that starts in some state: what the server answers, what ends it before its time, and the state in
the end. -/
inductive Course (client : Client) (script : Script) :
    Status → List Request → List (Request × Bool) → Option Stop → Status → Prop
  | done (status : Status) : Course client script status [] [] none status
  | unsent {status : Status} {request : Request} {plan : List Request} {fault : ServerFault}
      (hsend : client.obstacle? script request = some fault) :
      Course client script status (request :: plan) [] (some (.unsent fault)) status
  | refused {status : Status} {request : Request} {plan : List Request}
      (hsend : client.obstacle? script request = none) (h : script.accepts status request = false) :
      Course client script status (request :: plan) [(request, false)] (some (.refused request))
        (script.after status request false)
  | accepted {status last : Status} {request : Request} {plan : List Request} {answers : List (Request × Bool)}
      {stop : Option Stop} (hsend : client.obstacle? script request = none)
      (h : script.accepts status request = true)
      (rest : Course client script (script.after status request true) plan answers stop last) :
      Course client script status (request :: plan) ((request, true) :: answers) stop last

namespace Course

theorem append (first : Course client script status plan answers none mid)
    (second : Course client script mid more later stop last) :
    Course client script status (plan ++ more) (answers ++ later) stop last := by
  generalize hstop : (none : Option Stop) = fine at first
  induction first with
  | done => exact second
  | unsent | refused => cases hstop
  | accepted hsend h _ ih => exact .accepted hsend h (ih second hstop)

/-- A plan that was ended goes the same way when it is longer. -/
theorem extend {stop : Stop} (course : Course client script status plan answers (some stop) last)
    (more : List Request) : Course client script status (plan ++ more) answers (some stop) last := by
  generalize hstop : some stop = ended at course
  induction course with
  | done => cases hstop
  | unsent hsend => exact .unsent hsend
  | refused hsend h => exact .refused hsend h
  | accepted hsend h _ ih => exact .accepted hsend h (ih hstop)

theorem requests_eq (course : Course client script status plan answers stop last) :
    answers.map Prod.fst = script.upToRefused status (plan.takeWhile (client.sends script)) := by
  induction course with
  | done => rfl
  | unsent hsend => simp [Client.sends, hsend, Script.upToRefused]
  | refused hsend h => simp [Client.sends, hsend, Script.upToRefused, h]
  | accepted hsend h _ ih => simp [Client.sends, hsend, Script.upToRefused, h, ih]

theorem answers_append (course : Course client script status plan answers stop last) (more : List Request) :
    script.answers status (answers.map Prod.fst ++ more) = answers ++ script.answers last more := by
  induction course with
  | done | unsent => rfl
  | refused _ h => simp [Script.answers, h]
  | accepted _ h _ ih => simp [Script.answers, h, ih]

theorem mem_plan (course : Course client script status plan answers stop last) {answer : Request × Bool}
    (h : answer ∈ answers) : answer.1 ∈ plan ∧ client.sends script answer.1 = true := by
  have sent : answer.1 ∈ plan.takeWhile (client.sends script) :=
    mem_of_mem_upToRefused (course.requests_eq ▸ List.mem_map_of_mem h)
  exact ⟨(List.takeWhile_sublist _).mem sent, List.all_eq_true.1 List.all_takeWhile _ sent⟩

theorem prefix_plan (course : Course client script status plan answers stop last) :
    answers.map Prod.fst <+: plan := by
  induction course with
  | done | unsent => exact List.nil_prefix
  | refused => exact List.prefix_append _ _
  | accepted _ _ _ ih => exact (List.prefix_cons_inj _).2 ih

theorem refused_mem_iff (course : Course client script status plan answers stop last) :
    (request, false) ∈ answers ↔ stop = some (.refused request) := by
  induction course with
  | done => simp
  | unsent => simp
  | refused => simp [eq_comm]
  | accepted _ _ _ ih => simp [ih]

theorem stop_ne_refused (course : Course client script status plan answers stop last) (h : request ∉ plan) :
    stop ≠ some (.refused request) :=
  fun same => h (course.mem_plan (course.refused_mem_iff.2 same)).1

theorem complete (course : Course client script status plan answers none last) :
    answers = plan.map fun request => (request, true) := by
  generalize hstop : (none : Option Stop) = fine at course
  induction course with
  | done => rfl
  | unsent | refused => cases hstop
  | accepted _ _ _ ih => rw [ih hstop, List.map_cons]

/-- The last request of a plan that was ended is not accepted, unless it stands there twice. -/
theorem mem_dropLast {stop : Stop} (course : Course client script status plan answers (some stop) last)
    (h : (request, true) ∈ answers) : request ∈ plan.dropLast := by
  generalize hstop : some stop = ended at course
  induction course with
  | done => cases hstop
  | unsent => cases h
  | refused => simp at h
  | @accepted _ _ _ plan _ _ _ _ rest ih =>
    have longer : plan ≠ [] := by
      rintro rfl
      cases rest
      cases hstop
    rw [List.dropLast_cons_of_ne_nil longer]
    rcases List.mem_cons.1 h with same | later
    · exact List.mem_cons.2 (.inl (Prod.mk.inj same).1)
    · exact List.mem_cons_of_mem _ (ih later hstop)

theorem stop_of_obstacle (course : Course client script status plan answers stop last)
    (h : ∀ answer ∈ answers, answer.2 = true) {fault : ServerFault}
    (hsend : plan.findSome? (client.obstacle? script) = some fault) : stop = some (.unsent fault) := by
  induction course with
  | done => cases hsend
  | unsent found =>
    rw [List.findSome?_cons, found] at hsend
    rw [Option.some.inj hsend]
  | refused => simp at h
  | accepted clear _ _ ih =>
    rw [List.findSome?_cons, clear] at hsend
    exact ih (fun answer later => h answer (List.mem_cons_of_mem _ later)) hsend

/-- Outside of transactions only a begin, or the text itself, opens one. -/
theorem stays_idle (course : Course client script status plan answers stop last) (hstatus : status = .idle)
    (hplan : .begin ∉ plan) (contained : script.leaves .idle = .idle) : last = .idle := by
  induction course with
  | done | unsent => exact hstatus
  | @refused _ request =>
    subst hstatus
    cases request <;> rfl
  | @accepted _ _ request _ _ _ _ _ _ ih =>
    subst hstatus
    refine ih ?_ fun h => hplan (List.mem_cons_of_mem _ h)
    cases request with
    | begin => exact absurd List.mem_cons_self hplan
    | execute => exact contained
    | prepare | commit | rollback => rfl

section Unsent

variable {before after : List Request}
  (course : Course client script status (before ++ request :: after) answers stop last)
  (hsend : client.sends script request = false)

include course hsend

/-- A plan does not get past a request that is not sent. -/
theorem mem_before {other : Request} (h : other ∈ answers.map Prod.fst) : other ∈ before := by
  have sent : other ∈ (before ++ request :: after).takeWhile (client.sends script) :=
    mem_of_mem_upToRefused (course.requests_eq ▸ h)
  rw [List.takeWhile_append, List.takeWhile_cons_of_neg (by simp [hsend]), List.append_nil] at sent
  split at sent
  · exact sent
  · exact (List.takeWhile_sublist _).mem sent

theorem exists_stop : ∃ ended, stop = some ended := by
  cases stop with
  | some ended => exact ⟨ended, rfl⟩
  | none =>
    have accepted : (request, true) ∈ answers := by simp [course.complete]
    have sent := (course.mem_plan accepted).2
    rw [hsend] at sent
    cases sent

end Unsent

end Course

end SqlBuilder.Session

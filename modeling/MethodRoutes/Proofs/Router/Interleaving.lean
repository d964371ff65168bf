import MethodRoutes.Proofs.Router.Invocations
import MethodRoutes.Router.Task

/-!
# Calls that run at the same time do not interfere

Calls that were started share a session, and their steps can come in any order. If accessors,
providers and the transport answer whatever came before in the same way, then a call cannot tell
whether others are under way: each step of it finds what it would have found alone. So each call
gets the reply that it would get alone, and the requests that are sent are those of the calls one
after the other, up to their order.

The invariant says of every call how what it has come to follows from its route and arguments, and
which requests it has sent. One step of one call keeps it, and so does every schedule.

## Main definitions

* `Source.IsConstant`, `Route.IsSteady`, `Router.IsSteady`, `Transport.IsSteady` — what answers in
  the same way every time
* `Task.attempt`, `Task.alone` — the request and the reply of a call that runs alone
* `Task.Consistent`, `Task.sent` — how far a call has come
* `Flight.Sound` — the invariant

## Main results

* `Route.call_cases` — how far a call can come before it is sent
* `Call.assemble_fst_eq` — the request of a call does not depend on what was invoked before
* `Route.advance_thrice`, `Flight.run_single` — the steps of a call, one right after the other,
  carry it out
* `Task.step_spec`, `Flight.Sound.step`, `Flight.Sound.run` — the invariant is kept
* `Flight.stepsLeft_run` — every step of a call brings it closer to its reply
* `Flight.run_eq_alone` — replies and requests under every schedule
-/

namespace MethodRoutes

open Json (Value)

/-! ## What answers in the same way every time -/

/-- Every answer is the same. -/
def Source.IsConstant {α : Type} (source : Source α) : Prop :=
  ∀ n m, source.answer n = source.answer m

/-- The accessors and the provider of the route give the same answer to every invocation. -/
structure Route.IsSteady (r : Route) : Prop where
  /-- The accessors do. -/
  accessor : ∀ name source, r.accessors.get? name = some source → source.IsConstant
  /-- The provider does, if there is one. -/
  provider : ∀ source, r.provider = some source → source.IsConstant

/-- All accessors and providers of the router give the same answer to every invocation. -/
def Router.IsSteady (router : Router) : Prop :=
  ∀ method r, router.route? method = some r → r.IsSteady

/-- The outcome of an exchange depends on nothing but the request. -/
def Transport.IsSteady {σ : Type} (transport : Transport σ) (answer : Request → Outcome) : Prop :=
  ∀ request state, (transport.send request state).1 = answer request

/-- A router is steady if it was built with accessors and providers that are. -/
theorem Router.isSteady_of_build {plan : Plan} {router : Router} (h : plan.build = .ok router)
    (haccessors : ∀ name source, plan.bindings.accessors.get? name = some source →
      source.IsConstant)
    (hproviders : ∀ method source, plan.bindings.providers.get? method = some source →
      source.IsConstant) :
    router.IsSteady := by
  intro method r hr
  obtain ⟨m, -, hcompile, -⟩ := exists_compile_of_build h hr
  have hcompiled := Route.isCompiled_of_compile hcompile
  constructor
  · intro name source hsource
    rw [hcompiled.accessors] at hsource
    split at hsource
    · exact haccessors name source hsource
    · cases hsource
  · intro source hsource
    rw [hcompiled.provider] at hsource
    exact hproviders m.signature source hsource

namespace Call

variable {call : Call}

theorem resolve_fst_eq (h : call.route.IsSteady) (s : Segment) (i j : Invocations) :
    (call.resolve s i).1 = (call.resolve s j).1 := by
  cases s with
  | literal text => rfl
  | parameter index => rfl
  | accessor name =>
    simp only [resolve]
    cases hsource : call.route.accessors.get? name with
    | none => rfl
    | some source => exact h.accessor name source hsource _ _

theorem resolveAll_fst_eq (h : call.route.IsSteady) (segments : List Segment)
    (i j : Invocations) :
    (call.resolveAll segments i).1 = (call.resolveAll segments j).1 := by
  induction segments generalizing i j with
  | nil => rfl
  | cons s segments ih =>
    -- The first segment leaves different invocations behind on the two sides.
    rw [resolveAll_cons_run, resolveAll_cons_run, resolve_fst_eq h s i j,
      ih (call.resolve s i).2 (call.resolve s j).2]

/-- The request of a call does not depend on what was invoked before. -/
theorem assemble_fst_eq (h : call.route.IsSteady) (codec : Codec) (i j : Invocations) :
    (call.assemble codec i).1 = (call.assemble codec j).1 := by
  have hheaders : (call.headers i).1 = (call.headers j).1 := by
    rw [headers]
    cases hsource : call.route.provider with
    | none => rfl
    | some source => exact h.provider source hsource _ _
  have hurl (i j : Invocations) : (call.url i).1 = (call.url j).1 :=
    congrArg String.join (resolveAll_fst_eq h _ i j)
  calc (call.assemble codec i).1
      = attachBody codec ⟨call.route.verb, (call.url (call.headers i).2).1, (call.headers i).1,
          none, call.route.resultType⟩ call.body? := rfl
    _ = attachBody codec ⟨call.route.verb, (call.url (call.headers j).2).1, (call.headers j).1,
          none, call.route.resultType⟩ call.body? := by rw [hheaders, hurl]
    _ = (call.assemble codec j).1 := rfl

end Call

/-! ## The steps of one call -/

theorem Progress.isFinished_iff_stepsLeft_eq_zero {ρ : Type} {p : Progress ρ} :
    p.isFinished ↔ p.stepsLeft = 0 := by
  cases p <;> simp [isFinished, stepsLeft]

section Advance

variable {σ ρ : Type} {backend : Backend σ} {decoder : Decoder ρ} {s : Session σ} {r : Route}
  {args : List Value} {call : Call} {i : Invocations} {e : RoutingError} {request : Request}

/-- A call is turned down for its arguments or for its body, or there is a request to send. -/
theorem Route.call_cases (r : Route) (args : List Value) (codec : Codec) (i : Invocations) :
    (∃ e, r.call args = .error e) ∨
      (∃ call e j, r.call args = .ok call ∧ call.assemble codec i = (.error e, j)) ∨
      ∃ call request j, r.call args = .ok call ∧ call.assemble codec i = (.ok request, j) := by
  cases hcall : r.call args with
  | error e => exact .inl ⟨e, rfl⟩
  | ok call =>
    cases hassemble : call.assemble codec i with
    | mk result j =>
      cases result with
      | error e => exact .inr (.inl ⟨call, e, j, rfl, hassemble⟩)
      | ok request => exact .inr (.inr ⟨call, request, j, rfl, hassemble⟩)

theorem Route.advance_of_refused (h : r.call args = .error e) :
    r.advance backend decoder args .started s = (.finished (.error e), s) := by
  rw [advance, h]
  rfl

theorem Route.advance_of_unencoded (h : r.call args = .ok call)
    (hassemble : call.assemble backend.codec s.invocations = (.error e, i)) :
    r.advance backend decoder args .started s =
      (.finished (.error e), { s with invocations := i }) := by
  rw [advance, h]
  simp only [Session.invoking, bind, StateT.bind, StateT.run, hassemble]
  rfl

theorem Route.advance_of_assembled (h : r.call args = .ok call)
    (hassemble : call.assemble backend.codec s.invocations = (.ok request, i)) :
    r.advance backend decoder args .started s =
      (.assembled request, { s with invocations := i }) := by
  rw [advance, h]
  simp only [Session.invoking, bind, StateT.bind, StateT.run, hassemble]
  rfl

theorem Route.stepsLeft_advance {p : Progress ρ} :
    (r.advance backend decoder args p s).1.stepsLeft ≤ p.stepsLeft - 1 := by
  cases p with
  | started =>
    rcases r.call_cases args backend.codec s.invocations with
      ⟨e, hcall⟩ | ⟨call, e, i, hcall, hassemble⟩ | ⟨call, request, i, hcall, hassemble⟩
    · rw [advance_of_refused hcall]
      exact Nat.zero_le 2
    · rw [advance_of_unencoded hcall hassemble]
      exact Nat.zero_le 2
    · rw [advance_of_assembled hcall hassemble]
      exact le_rfl
  | assembled request => exact le_rfl
  | answered outcome => exact le_rfl
  | finished reply => exact le_rfl

/-- The three steps of a call, with nothing between them, carry it out. -/
theorem Route.advance_thrice :
    ((r.advance backend decoder args .started >>= r.advance backend decoder args) >>=
        r.advance backend decoder args) s =
      ((.finished (r.execute backend decoder args s).1), (r.execute backend decoder args s).2) := by
  simp only [bind, StateT.bind]
  -- A call that ends early stays as it is for the steps that are left.
  rcases r.call_cases args backend.codec s.invocations with
    ⟨e, hcall⟩ | ⟨call, e, i, hcall, hassemble⟩ | ⟨call, request, i, hcall, hassemble⟩
  · rw [advance_of_refused hcall, execute_of_refused hcall]
    rfl
  · rw [advance_of_unencoded hcall hassemble, execute_of_unencoded hcall hassemble]
    rfl
  · rw [advance_of_assembled hcall hassemble, execute_of_sent hcall hassemble]
    rfl

end Advance

/-! ## A call that runs alone -/

namespace Task

variable {σ : Type} {backend : Backend σ} {answer : Request → Outcome} {s : Session σ} {t : Task}

/-- The call before its first step. -/
def restart (t : Task) : Task := { t with progress := .started }

/-- The request of a call that runs alone, or why there is none. -/
def attempt (codec : Codec) (t : Task) : Except RoutingError Request :=
  t.route.call t.args >>= fun call => (call.assemble codec .none).1

/-- The reply to a call that runs alone. -/
def alone (codec : Codec) (answer : Request → Outcome) (t : Task) :
    Except RoutingError (Reply t.Result) :=
  t.attempt codec >>= fun request => t.route.classify codec t.decoder (answer request)

/-- What a call that runs alone sends: its request, if there is one. -/
def requests (codec : Codec) (t : Task) : List Request := (t.attempt codec).toOption.toList

theorem attempt_of_refused {codec : Codec} {e : RoutingError}
    (h : t.route.call t.args = .error e) : t.attempt codec = .error e := by
  rw [attempt, h]
  rfl

/-- Whatever has been invoked before, the assembly gives the request of the call alone. -/
theorem attempt_of_assemble {codec : Codec} {call : Call} {i j : Invocations}
    {result : Except RoutingError Request} (hsteady : t.route.IsSteady)
    (h : t.route.call t.args = .ok call) (hassemble : call.assemble codec i = (result, j)) :
    t.attempt codec = result := by
  obtain ⟨rfl, -⟩ := Route.call_eq_ok_iff.mp h
  have heq : ((Call.mk t.route t.args).assemble codec .none).1 =
      ((Call.mk t.route t.args).assemble codec i).1 := Call.assemble_fst_eq hsteady codec .none i
  rw [attempt, h]
  exact heq.trans (congrArg Prod.fst hassemble)

theorem alone_of_attempt {codec : Codec} {request : Request} (answer : Request → Outcome)
    (h : t.attempt codec = .ok request) :
    t.alone codec answer = t.route.classify codec t.decoder (answer request) := by
  rw [alone, h]
  rfl

/-- Whatever the session, a call that is carried out gets the reply and sends the requests of the
call alone. -/
theorem execute_eq_alone (hsteady : t.route.IsSteady)
    (htransport : backend.transport.IsSteady answer) :
    (t.route.execute backend t.decoder t.args s).1 = t.alone backend.codec answer ∧
      (t.route.execute backend t.decoder t.args s).2.sent = s.sent ++ t.requests backend.codec := by
  rw [alone, requests]
  rcases t.route.call_cases t.args backend.codec s.invocations with
    ⟨e, hcall⟩ | ⟨call, e, i, hcall, hassemble⟩ | ⟨call, request, i, hcall, hassemble⟩
  · rw [Route.execute_of_refused hcall, attempt_of_refused hcall]
    exact ⟨rfl, (List.append_nil s.sent).symm⟩
  · rw [Route.execute_of_unencoded hcall hassemble, attempt_of_assemble hsteady hcall hassemble]
    exact ⟨rfl, (List.append_nil s.sent).symm⟩
  · rw [Route.execute_of_sent hcall hassemble, attempt_of_assemble hsteady hcall hassemble,
      htransport]
    exact ⟨rfl, rfl⟩

/-- Carry out calls one after the other. -/
def inTurn (backend : Backend σ) (tasks : List Task) (s : Session σ) : Session σ :=
  tasks.foldl (fun s t => (t.route.execute backend t.decoder t.args s).2) s

theorem sent_inTurn {tasks : List Task} (hsteady : ∀ t ∈ tasks, t.route.IsSteady)
    (htransport : backend.transport.IsSteady answer) :
    (inTurn backend tasks s).sent = s.sent ++ tasks.flatMap (requests backend.codec) := by
  induction tasks generalizing s with
  | nil => exact (List.append_nil s.sent).symm
  | cons t tasks ih =>
    have hrest : ∀ t ∈ tasks, t.route.IsSteady := fun u hu => hsteady u (List.mem_cons_of_mem t hu)
    rw [inTurn, List.foldl_cons, ← inTurn, ih hrest,
      (execute_eq_alone (hsteady t List.mem_cons_self) htransport).2, List.flatMap_cons,
      List.append_assoc]

/-! ## One step of one call -/

/-- What a call has come to is what it comes to alone. -/
def Consistent (codec : Codec) (answer : Request → Outcome) (t : Task) : Prop :=
  match t.progress with
  | .started => True
  | .assembled request => t.attempt codec = .ok request
  | .answered outcome => ∃ request, t.attempt codec = .ok request ∧ outcome = answer request
  | .finished reply => reply = t.alone codec answer

/-- The requests that a call has sent so far. -/
def sent (codec : Codec) (t : Task) : List Request :=
  match t.progress with
  | .started | .assembled _ => []
  | .answered _ | .finished _ => t.requests codec

theorem sent_of_isFinished {codec : Codec} (h : t.progress.isFinished) :
    t.sent codec = t.requests codec := by
  obtain ⟨Result, decoder, route, args, progress⟩ := t
  cases progress with
  | started | assembled _ => cases h
  | answered _ | finished _ => rfl

theorem step_of_advance {p : Progress t.Result} {s' : Session σ}
    (h : t.route.advance backend t.decoder t.args t.progress s = (p, s')) :
    t.step backend s = ({ t with progress := p }, s') := by
  rw [step, h]

/-- A call without a request ends with the error of the call alone, and sends nothing. -/
theorem consistent_of_attempt_eq_error (answer : Request → Outcome) {codec : Codec}
    {e : RoutingError} (h : t.attempt codec = .error e) :
    ({ t with progress := .finished (.error e) } : Task).Consistent codec answer ∧
      ({ t with progress := .finished (.error e) } : Task).sent codec = [] := by
  constructor
  · change .error e = t.alone codec answer
    rw [alone, h]
    rfl
  · change t.requests codec = []
    rw [requests, h]
    rfl

/-- A step leaves a consistent call consistent, and the session receives just the requests that the
call sends with it. -/
theorem step_spec (hsteady : t.route.IsSteady) (htransport : backend.transport.IsSteady answer)
    (h : t.Consistent backend.codec answer) :
    (t.step backend s).1.restart = t.restart ∧
      (t.step backend s).1.Consistent backend.codec answer ∧
      ∃ more, (t.step backend s).2.sent = s.sent ++ more ∧
        (t.step backend s).1.sent backend.codec = t.sent backend.codec ++ more := by
  refine ⟨rfl, ?_⟩
  have hnothing : s.sent = s.sent ++ [] := (List.append_nil s.sent).symm
  obtain ⟨Result, decoder, route, args, progress⟩ := t
  cases progress with
  | started =>
    -- Only the assembly looks at the session, and what it finds there does not matter.
    let t : Task := ⟨Result, decoder, route, args, .started⟩
    rcases route.call_cases args backend.codec s.invocations with
      ⟨e, hcall⟩ | ⟨call, e, i, hcall, hassemble⟩ | ⟨call, request, i, hcall, hassemble⟩
    · have hattempt : t.attempt backend.codec = .error e := attempt_of_refused hcall
      have hfailed := consistent_of_attempt_eq_error answer hattempt
      rw [step_of_advance (Route.advance_of_refused hcall)]
      exact ⟨hfailed.1, [], hnothing, hfailed.2⟩
    · have hattempt : t.attempt backend.codec = .error e :=
        attempt_of_assemble hsteady hcall hassemble
      have hfailed := consistent_of_attempt_eq_error answer hattempt
      rw [step_of_advance (Route.advance_of_unencoded hcall hassemble)]
      exact ⟨hfailed.1, [], hnothing, hfailed.2⟩
    · have hattempt : t.attempt backend.codec = .ok request :=
        attempt_of_assemble hsteady hcall hassemble
      rw [step_of_advance (Route.advance_of_assembled hcall hassemble)]
      exact ⟨hattempt, [], hnothing, rfl⟩
  | assembled request =>
    -- This is the one step that the session receives a request with.
    have hattempt : (mk Result decoder route args (.assembled request)).attempt backend.codec =
      .ok request := h
    refine ⟨⟨request, hattempt, htransport request s.state⟩, [request], rfl, ?_⟩
    change (attempt backend.codec _).toOption.toList = [] ++ [request]
    exact congrArg (fun result => result.toOption.toList) hattempt
  | answered outcome =>
    obtain ⟨request, hattempt, rfl⟩ := h
    exact ⟨(alone_of_attempt answer hattempt).symm, [], hnothing, (List.append_nil _).symm⟩
  | finished reply => exact ⟨h, [], hnothing, (List.append_nil _).symm⟩

end Task

/-! ## Every schedule -/

/-- If what one entry gives grows at its end, then what all entries give grows by as much, up to
order. -/
theorem flatMap_set_perm {α β : Type*} {g : α → List β} {a a' : α} {more : List β} {l : List α}
    {i : ℕ} (ha : l[i]? = some a) (h : g a' = g a ++ more) :
    ((l.set i a').flatMap g).Perm (l.flatMap g ++ more) := by
  induction l generalizing i with
  | nil => cases ha
  | cons b l ih =>
    cases i with
    | zero =>
      cases ha
      -- What is new comes before what the other entries give.
      rw [List.set_cons_zero, List.flatMap_cons, List.flatMap_cons, h, List.append_assoc,
        List.append_assoc]
      exact List.perm_append_comm.append_left (g a)
    | succ i =>
      rw [List.set_cons_succ, List.flatMap_cons, List.flatMap_cons, List.append_assoc]
      exact (ih ha).append_left (g b)

namespace Flight

section Runs

variable {σ : Type} {backend : Backend σ} {answer : Request → Outcome} {tasks : List Task}
  {s : Session σ} {f : Flight σ} {t : Task} {i j : ℕ} {schedule : List ℕ}

theorem step_of_getElem? (h : f.tasks[i]? = some t) :
    f.step backend i =
      ⟨f.tasks.set i (t.step backend f.session).1, (t.step backend f.session).2⟩ := by
  rw [step, h]

theorem step_of_getElem?_eq_none (h : f.tasks[i]? = none) : f.step backend i = f := by
  rw [step, h]

/-- A call that nothing else runs with is carried out. -/
theorem run_single (h : t.progress = .started) :
    run backend ⟨[t], s⟩ [0, 0, 0] =
      ⟨[{ t with progress := .finished (t.route.execute backend t.decoder t.args s).1 }],
        (t.route.execute backend t.decoder t.args s).2⟩ := by
  obtain ⟨Result, decoder, route, args, progress⟩ := t
  change progress = .started at h
  subst h
  exact congrArg (fun ended : Progress Result × Session σ =>
    Flight.mk [⟨Result, decoder, route, args, ended.1⟩] ended.2) Route.advance_thrice

/-- What calls that run at the same time have come to, if they were started in a session. -/
structure Sound (codec : Codec) (answer : Request → Outcome) (tasks : List Task) (s : Session σ)
    (f : Flight σ) : Prop where
  /-- They are the calls that were started. -/
  restart : f.tasks.map Task.restart = tasks
  /-- Their routes are steady. -/
  steady : ∀ t ∈ f.tasks, t.route.IsSteady
  /-- Each of them has come to what it comes to alone. -/
  consistent : ∀ t ∈ f.tasks, t.Consistent codec answer
  /-- The session has received the requests that each of them has sent. -/
  sent : f.session.sent.Perm (s.sent ++ f.tasks.flatMap (Task.sent codec))

namespace Sound

/-- Calls that have not taken a step. -/
theorem start {codec : Codec} (hsteady : ∀ t ∈ tasks, t.route.IsSteady)
    (hstarted : ∀ t ∈ tasks, t.progress = .started) :
    Sound codec answer tasks s ⟨tasks, s⟩ where
  restart := by
    have hrestart : ∀ t ∈ tasks, t.restart = t := by
      intro t ht
      rw [Task.restart, ← hstarted t ht]
    exact (List.map_congr_left hrestart).trans (List.map_id tasks)
  steady := hsteady
  consistent := by
    intro t ht
    rw [Task.Consistent, hstarted t ht]
    trivial
  sent := by
    have hnothing : tasks.flatMap (Task.sent codec) = [] := by
      refine List.flatMap_eq_nil_iff.mpr fun t ht => ?_
      rw [Task.sent, hstarted t ht]
    rw [hnothing, List.append_nil]

/-- A step of any call keeps what the calls have come to. -/
theorem step (htransport : backend.transport.IsSteady answer)
    (h : Sound backend.codec answer tasks s f) :
    Sound backend.codec answer tasks s (f.step backend i) := by
  cases ht : f.tasks[i]? with
  | none =>
    rw [step_of_getElem?_eq_none ht]
    exact h
  | some t =>
    have hmem : t ∈ f.tasks := List.mem_of_getElem? ht
    obtain ⟨hrestart, hconsistent, more, hsession, hsent⟩ :=
      Task.step_spec (s := f.session) (h.steady t hmem) htransport (h.consistent t hmem)
    rw [step_of_getElem? ht]
    constructor
    · obtain ⟨hi, rfl⟩ := List.getElem?_eq_some_iff.mp ht
      have hlength : i < (f.tasks.map Task.restart).length := by rwa [List.length_map]
      have hself : f.tasks[i].restart = (f.tasks.map Task.restart)[i] :=
        (List.getElem_map Task.restart).symm
      rw [List.map_set, hrestart, hself, List.set_getElem_self]
      exact h.restart
    · intro u hu
      rcases List.mem_or_eq_of_mem_set hu with hu | rfl
      · exact h.steady u hu
      · exact h.steady t hmem
    · intro u hu
      rcases List.mem_or_eq_of_mem_set hu with hu | rfl
      · exact h.consistent u hu
      · exact hconsistent
    -- The request comes last in the session, but in the middle of what the calls have sent.
    · have hbefore := h.sent.append_right more
      have hafter := (flatMap_set_perm ht hsent).append_left s.sent
      rw [List.append_assoc] at hbefore
      exact (List.Perm.of_eq hsession).trans (hbefore.trans hafter.symm)

/-- Steps in any order keep what the calls have come to. -/
theorem run (htransport : backend.transport.IsSteady answer)
    (h : Sound backend.codec answer tasks s f) (schedule : List ℕ) :
    Sound backend.codec answer tasks s (f.run backend schedule) := by
  induction schedule generalizing f with
  | nil => exact h
  | cons i schedule ih => exact ih (h.step htransport)

end Sound

/-! ## Every call comes to its end -/

theorem getElem?_step_of_ne (h : i ≠ j) : (f.step backend i).tasks[j]? = f.tasks[j]? := by
  cases ht : f.tasks[i]? with
  | none => rw [step_of_getElem?_eq_none ht]
  | some t =>
    rw [step_of_getElem? ht]
    exact List.getElem?_set_ne h

theorem getElem?_step_self (h : f.tasks[i]? = some t) :
    (f.step backend i).tasks[i]? = some (t.step backend f.session).1 := by
  obtain ⟨hi, -⟩ := List.getElem?_eq_some_iff.mp h
  rw [step_of_getElem? h]
  exact List.getElem?_set_self hi

/-- Every step of a call brings it closer to its reply, and no step of another call takes it
away. -/
theorem stepsLeft_run (h : f.tasks[i]? = some t) (schedule : List ℕ) :
    ∃ u, (f.run backend schedule).tasks[i]? = some u ∧
      u.progress.stepsLeft ≤ t.progress.stepsLeft - schedule.count i := by
  induction schedule generalizing f t with
  | nil => exact ⟨t, h, le_rfl⟩
  | cons j schedule ih =>
    by_cases hj : j = i
    -- A step of the call itself counts once on either side.
    · subst hj
      obtain ⟨u, hu, hleft⟩ := ih (getElem?_step_self h)
      have hstep : (t.step backend f.session).1.progress.stepsLeft ≤ t.progress.stepsLeft - 1 :=
        Route.stepsLeft_advance
      refine ⟨u, hu, ?_⟩
      rw [List.count_cons_self]
      omega
    · obtain ⟨u, hu, hleft⟩ := ih ((getElem?_step_of_ne hj).trans h)
      refine ⟨u, hu, ?_⟩
      rwa [List.count_cons_of_ne hj]

/-! ## What the calls come to -/

/-- Calls that have their replies have sent the requests of the calls one after the other, in
whichever order. -/
theorem Sound.sent_perm_inTurn (htransport : backend.transport.IsSteady answer)
    (h : Sound backend.codec answer tasks s f)
    (hfinished : ∀ t ∈ f.tasks, t.progress.isFinished) {order : List Task}
    (horder : order.Perm tasks) :
    f.session.sent.Perm (Task.inTurn backend order s).sent := by
  have hsteady : ∀ t ∈ order, t.route.IsSteady := by
    intro t ht
    have hmem : t ∈ f.tasks.map Task.restart := h.restart.symm ▸ horder.mem_iff.mp ht
    obtain ⟨u, hu, rfl⟩ := List.mem_map.mp hmem
    exact h.steady u hu
  have hsent : f.tasks.flatMap (Task.sent backend.codec) =
      tasks.flatMap (Task.requests backend.codec) := by
    rw [← h.restart, List.flatMap_map]
    exact List.flatMap_congr fun t ht => Task.sent_of_isFinished (hfinished t ht)
  rw [Task.sent_inTurn hsteady htransport]
  refine h.sent.trans (List.Perm.append_left s.sent ?_)
  rw [hsent]
  exact (horder.flatMap_right _).symm

/-- Calls that run at the same time do not interfere. Suppose that accessors, providers and the
transport answer in the same way every time, and that calls of routes of the router are started,
whose steps then come in any order. Then a call that is over has the reply of the call alone, in
whatever session that runs, and a call is over once it had three steps. When all calls are over, the
requests that the transport has received are those of the calls one after the other, up to order. -/
theorem run_eq_alone {router : Router} (hrouter : router.IsSteady)
    (htransport : backend.transport.IsSteady answer)
    (htasks : ∀ t ∈ tasks, t.progress = .started ∧ ∃ method, router.route? method = some t.route)
    (hrun : run backend ⟨tasks, s⟩ schedule = f) :
    f.tasks.length = tasks.length ∧
      (∀ i t, tasks[i]? = some t → ∃ p, f.tasks[i]? = some { t with progress := p } ∧
        (∀ reply, p = .finished reply → ∀ s' : Session σ,
          (t.route.execute backend t.decoder t.args s').1 = reply) ∧
        (3 ≤ schedule.count i → p.isFinished)) ∧
      ((∀ t ∈ f.tasks, t.progress.isFinished) → ∀ order, order.Perm tasks →
        f.session.sent.Perm (Task.inTurn backend order s).sent) := by
  have hsteady : ∀ t ∈ tasks, t.route.IsSteady := by
    intro t ht
    obtain ⟨-, method, hroute⟩ := htasks t ht
    exact hrouter method t.route hroute
  have hstarted : ∀ t ∈ tasks, t.progress = .started := fun t ht => (htasks t ht).1
  have hsound : Sound backend.codec answer tasks s f :=
    hrun ▸ (Sound.start hsteady hstarted).run htransport schedule
  -- The rest is read off the invariant.
  refine ⟨?_, ?_, fun hfinished order => hsound.sent_perm_inTurn htransport hfinished⟩
  · rw [← hsound.restart, List.length_map]
  · intro i t ht
    obtain ⟨u, hu, hleft⟩ : ∃ u, f.tasks[i]? = some u ∧
        u.progress.stepsLeft ≤ t.progress.stepsLeft - schedule.count i :=
      hrun ▸ stepsLeft_run ht schedule
    have hmem : u ∈ f.tasks := List.mem_of_getElem? hu
    have hrestart : u.restart = t := by
      have hi : (f.tasks.map Task.restart)[i]? = some t := hsound.restart.symm ▸ ht
      rw [List.getElem?_map, hu] at hi
      exact Option.some.inj hi
    subst hrestart
    refine ⟨u.progress, hu, ?_, ?_⟩
    · intro reply hreply s'
      have hconsistent := hsound.consistent u hmem
      rw [Task.Consistent, hreply] at hconsistent
      exact (Task.execute_eq_alone (hsound.steady u hmem) htransport).1.trans hconsistent.symm
    · intro hcount
      change u.progress.stepsLeft ≤ 3 - schedule.count i at hleft
      have hzero : u.progress.stepsLeft = 0 := by omega
      exact Progress.isFinished_iff_stepsLeft_eq_zero.mpr hzero

end Runs

namespace Sample

/-- A method with an accessor and a parameter in its destination. -/
def find : Method := ⟨"find", [.text "id"], none, "\x7broot()\x7d/\x7b0\x7d", .plain, .unit⟩

/-- The route of the method. -/
def route : Route :=
  ⟨find.signature, ⟨[.accessor "root", .literal "/", .parameter 0]⟩, .get, none, none, .unit, .plain,
    find.parameters, Table.empty.insert "root" (.constant "items")⟩

/-- A plan whose only accessor gives the same answer every time. -/
def plan : Plan := ⟨Bindings.empty.withAccessor "root" (.constant "items"), [find]⟩

/-- A server that has one item. -/
def answer (request : Request) : Outcome :=
  .ok (.ofCode (if request.url = "items/7" then 200 else 404))

/-- A backend that counts the requests to the server. -/
def backend : Backend ℕ := ⟨⟨fun request count => (answer request, count + 1)⟩, .json⟩

/-- A call for an item that is there, one for an item that is not, and one without an argument. -/
def tasks : List Task :=
  [.spawn route Except.ok [.string "7"], .spawn route Except.ok [.string "8"],
    .spawn route Except.ok []]

/-- A schedule in which the second call overtakes the first one. -/
def schedule : List ℕ := [0, 1, 2, 1, 0, 1, 2, 0, 2]

end Sample

/-- Of three calls that run at the same time, the second one is sent first, and the third one is not
sent. -/
theorem run_eq_alone_sample :
    ∃ router f, Sample.plan.build = .ok router ∧
      run Sample.backend ⟨Sample.tasks, .start 0⟩ Sample.schedule = f ∧
      f.session.sent = [.bare .get "items/8", .bare .get "items/7"] ∧
      f.session.sent.Perm (Task.inTurn Sample.backend Sample.tasks (.start 0)).sent ∧
      ∃ reply, f.tasks[1]? =
          some ⟨Value, .ok, Sample.route, [.string "8"], .finished reply⟩ ∧
        ∀ s' : Session ℕ,
          (Sample.route.execute Sample.backend Except.ok [.string "8"] s').1 = reply := by
  have hbuild : Sample.plan.build = .ok (Sample.plan.build.toOption.getD ⟨.empty⟩) := rfl
  have hroute : (Sample.plan.build.toOption.getD ⟨.empty⟩).route? Sample.find.signature =
      some Sample.route := rfl
  have hsteady : (Sample.plan.build.toOption.getD ⟨.empty⟩).IsSteady := by
    refine Router.isSteady_of_build hbuild ?_ ?_
    · intro name source hsource
      change (Table.empty.insert "root" (Source.constant "items")).get? name = some source at hsource
      rw [Table.get?_insert, Table.get?_empty] at hsource
      split at hsource
      · cases hsource
        exact fun n m => rfl
      · cases hsource
    · intro method source hsource
      cases hsource
  have htransport : Sample.backend.transport.IsSteady Sample.answer := fun _ _ => rfl
  have htasks : ∀ t ∈ Sample.tasks, t.progress = .started ∧
      ∃ method, (Sample.plan.build.toOption.getD ⟨.empty⟩).route? method = some t.route := by
    intro t ht
    simp only [Sample.tasks, List.mem_cons, List.not_mem_nil, or_false] at ht
    rcases ht with rfl | rfl | rfl
    all_goals exact ⟨rfl, Sample.find.signature, hroute⟩
  obtain ⟨-, hreplies, hsent⟩ :=
    run_eq_alone (s := .start 0) hsteady htransport htasks (Eq.refl (run _ _ Sample.schedule))
  have hfinished : ∀ t ∈ (run Sample.backend ⟨Sample.tasks, .start 0⟩ Sample.schedule).tasks,
      t.progress.isFinished := List.all_eq_true.mp (by decide +kernel)
  have horder : (run Sample.backend ⟨Sample.tasks, .start 0⟩ Sample.schedule).session.sent =
      [.bare .get "items/8", .bare .get "items/7"] := by decide +kernel
  obtain ⟨p, hp, hreply, hover⟩ := hreplies 1 (.spawn Sample.route Except.ok [.string "8"]) rfl
  -- The call is over, since it had all of its steps.
  cases p with
  | started | assembled _ | answered _ => cases hover (by decide)
  | finished reply =>
    exact ⟨_, _, hbuild, rfl, horder, hsent hfinished _ (.refl _), reply, hp, hreply reply rfl⟩

end Flight

end MethodRoutes

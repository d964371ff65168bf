import MethodRoutes.Proofs.Route.Decoding
import MethodRoutes.Proofs.Router.Invocations
import MethodRoutes.Proofs.Router.Served

/-!
# Which requests a router sends

A call sends its request once, and only after everything that can fail before: its method has a
route, its arguments fit, and its body has an encoding. So the requests of a sequence of calls are
those that can be assembled, in the order of the calls, and what a call replies is made from the
outcome of its own request.

The routes share their accessors and providers, so what a request contains depends on the calls
before. Still the requests can be told without a transport: the assemblies, one after the other,
leave the same invocations as the calls.

## Main definitions

* `RoutingError.isRefusal` — the failures of the checks before an assembly
* `Router.assembleAll`, `Transport.sendAll` — the requests of some calls, and the exchanges of some
  requests

## Main results

* `Route.isRefusal_of_call`, `Route.isRefusal_of_classify`, `Call.exists_encode_of_assemble` — where
  failures come from
* `Router.call_of_refused`, `Router.call_of_accept?` — what one call does
* `Router.serve_eq` — what a sequence of calls does
* `Router.sent_eq_assembled` — which requests are sent, and what the calls reply
-/

namespace MethodRoutes

open Json (Value)

/-! ## Where failures come from -/

/-- Whether the failure is one of the checks that come before a request is assembled. -/
def RoutingError.isRefusal : RoutingError → Bool
  | argumentCount _ _ _ | nullArgument _ _ _ | unknownRoute _ => true
  | transport _ | status _ | encode _ | decode _ => false

theorem RoutingError.isRefusal_ofCodec (cause : CodecError) : (ofCodec cause).isRefusal = false := by
  cases cause <;> rfl

section Failures

variable {ρ : Type} {r : Route} {args : List Value} {codec : Codec} {decoder : Decoder ρ}
  {outcome : Outcome} {response : Response} {e : RoutingError} {call : Call} {i : Invocations}

theorem Route.isRefusal_of_call (h : r.call args = .error e) : e.isRefusal = true := by
  rw [Route.call] at h
  split at h
  · cases h
    rfl
  · split at h
    · cases h
      rfl
    · cases h

theorem Route.isRefusal_of_decode (h : r.decode codec decoder response = .error e) :
    e.isRefusal = false := by
  rcases of_decode_eq_error h with ⟨cause, rfl⟩ | ⟨message, rfl⟩
  · exact RoutingError.isRefusal_ofCodec cause
  · rfl

theorem isRefusal_of_checkedStatus {code : UInt16} (h : checkedStatus code = .error e) :
    e.isRefusal = false := by
  rw [(checkedStatus_eq_error_iff.mp h).2]
  rfl

/-- What becomes of an outcome is never a refusal. -/
theorem Route.isRefusal_of_classify (h : r.classify codec decoder outcome = .error e) :
    e.isRefusal = false := by
  rw [Route.classify] at h
  split at h
  · rcases classifyPlain_eq_error_iff.mp h with
      ⟨response, -, -, hdecode⟩ | ⟨response, -, -, ⟨s, -, rfl⟩ | hstatus⟩ | ⟨f, -, rfl⟩
    · exact isRefusal_of_decode hdecode
    · rfl
    · exact isRefusal_of_checkedStatus hstatus
    · rfl
  · rcases classifyStatusAware_eq_error_iff.mp h with
      ⟨f, -, -, rfl⟩ | ⟨response, -, hstatus⟩ | ⟨response, -, -, -, hdecode⟩
    · rfl
    · exact isRefusal_of_checkedStatus hstatus
    · exact isRefusal_of_decode hdecode

/-- An assembly fails for one reason only: the body has no encoding. -/
theorem Call.exists_encode_of_assemble (h : (call.assemble codec i).1 = .error e) :
    ∃ body cause, call.body? = some body ∧ codec.encode body = .error cause ∧
      e = .ofCodec cause := by
  rw [assemble_fst, attachBody_eq_error_iff] at h
  obtain ⟨body, cause, hbody, -, hencode, rfl⟩ := h
  exact ⟨body, cause, hbody, hencode, rfl⟩

end Failures

/-! ## What one call does -/

/-- The exchanges of some requests, one after the other. -/
def Transport.sendAll {σ : Type} (transport : Transport σ) (requests : List Request) :
    StateM σ (List Outcome) :=
  requests.mapM fun request => transport.send request

namespace Router

/-- The requests of some calls, or why they have none, one after the other. -/
def assembleAll (codec : Codec) (calls : List Call) :
    StateM Invocations (List (Except RoutingError Request)) :=
  calls.mapM fun call => call.assemble codec

section Calls

variable {σ : Type} {router : Router} {backend : Backend σ} {s : Session σ} {d : Dispatch}
  {call : Call} {i : Invocations} {e : RoutingError} {request : Request}

/-- A dispatch that does not come to a checked call fails a check, and changes nothing. -/
theorem call_of_refused (backend : Backend σ) (s : Session σ) (h : router.accept? d = none) :
    ∃ e, e.isRefusal = true ∧
      router.call backend d.decoder d.method d.args s = (.error e, s) := by
  cases hr : router.route? d.method with
  | none => exact ⟨.unknownRoute d.method, rfl, call_of_route?_eq_none hr backend _ _ s⟩
  | some r =>
    rw [accept?, hr, Option.bind_some] at h
    cases hcall : r.call d.args with
    | error e =>
      refine ⟨e, Route.isRefusal_of_call hcall, ?_⟩
      rw [Router.call, hr]
      exact Route.execute_of_refused hcall
    | ok call =>
      rw [hcall] at h
      cases h

/-- A dispatch that comes to a checked call carries it out. -/
theorem call_of_accept? (h : router.accept? d = some call) :
    router.call backend d.decoder d.method d.args s =
      call.route.execute backend d.decoder d.args s := by
  rw [Router.call, (accept?_eq_some_iff.mp h).1]

theorem call_of_unencoded (h : router.accept? d = some call)
    (hassemble : call.assemble backend.codec s.invocations = (.error e, i)) :
    router.call backend d.decoder d.method d.args s = (.error e, { s with invocations := i }) := by
  rw [call_of_accept? h]
  exact Route.execute_of_unencoded (accept?_eq_some_iff.mp h).2 hassemble

theorem call_of_sent (h : router.accept? d = some call)
    (hassemble : call.assemble backend.codec s.invocations = (.ok request, i)) :
    router.call backend d.decoder d.method d.args s =
      (call.route.classify backend.codec d.decoder (backend.transport.send request s.state).1,
        ⟨i, (backend.transport.send request s.state).2, s.sent ++ [request]⟩) := by
  rw [call_of_accept? h]
  exact Route.execute_of_sent (accept?_eq_some_iff.mp h).2 hassemble

/-- A call ends in a refusal exactly if it does not come as far as an assembly. -/
theorem accept?_eq_none_iff :
    router.accept? d = none ↔
      ∃ e, e.isRefusal = true ∧
        (router.call backend d.decoder d.method d.args s).1 = .error e := by
  constructor
  · intro h
    obtain ⟨e, he, hcall⟩ := call_of_refused backend s h
    exact ⟨e, he, by rw [hcall]⟩
  · rintro ⟨e, he, hreply⟩
    cases haccept : router.accept? d with
    | none => rfl
    | some call =>
      -- A call that is assembled fails for its body or after the exchange, and neither is a refusal.
      refine absurd he ?_
      rw [Bool.not_eq_true]
      cases hassemble : call.assemble backend.codec s.invocations with
      | mk result i =>
        cases result with
        | error cause =>
          rw [call_of_unencoded haccept hassemble] at hreply
          cases hreply
          obtain ⟨-, cause, -, -, rfl⟩ :=
            Call.exists_encode_of_assemble (congrArg Prod.fst hassemble)
          exact RoutingError.isRefusal_ofCodec cause
        | ok request =>
          rw [call_of_sent haccept hassemble] at hreply
          exact Route.isRefusal_of_classify hreply

/-! ## What a sequence of calls does -/

/-- The requests among the results of some assemblies. -/
def requests (assembled : List (Except RoutingError Request)) : List Request :=
  assembled.filterMap Except.toOption

/-- A sequence of calls assembles the requests of the checked calls among them, and sends those
that can be assembled. -/
theorem serve_eq (dispatches : List Dispatch) :
    router.serve backend s dispatches =
      let assembled :=
        assembleAll backend.codec (dispatches.filterMap router.accept?) s.invocations
      ⟨assembled.2, (backend.transport.sendAll (requests assembled.1) s.state).2,
        s.sent ++ requests assembled.1⟩ := by
  induction dispatches generalizing s with
  | nil => exact congrArg (Session.mk s.invocations s.state) (List.append_nil s.sent).symm
  | cons d dispatches ih =>
    rw [serve, List.foldl_cons, ← serve, ih]
    cases haccept : router.accept? d with
    | none =>
      obtain ⟨e, -, hcall⟩ := call_of_refused backend s haccept
      rw [hcall, List.filterMap_cons_none haccept]
    | some call =>
      rw [List.filterMap_cons_some haccept]
      simp only [assembleAll, mapM_cons_run]
      -- The codec decides whether there is a request to send.
      cases hassemble : call.assemble backend.codec s.invocations with
      | mk result i =>
        cases result with
        | error e =>
          rw [call_of_unencoded haccept hassemble]
          rfl
        | ok request =>
          rw [call_of_sent haccept hassemble]
          simp only [requests, List.filterMap_cons, Except.toOption, Transport.sendAll,
            mapM_cons_run, List.append_assoc, List.singleton_append]

/-- Which requests are sent, and what the calls reply.

In a sequence of calls the transport receives the requests that can be assembled, one for each call
whose method has a route and whose arguments fit, in the order of the calls, and nothing else.

A single call, whatever the calls before it have left, sends nothing and changes nothing if its
method has no route or its arguments do not fit; these are the calls that end in a refusal. If the
body has no encoding, only the invocations of the assembly remain. Otherwise the assembled request
is sent once, and the reply is made from its outcome. -/
theorem sent_eq_assembled (router : Router) (backend : Backend σ) (s : Session σ) :
    (∀ dispatches : List Dispatch,
      let accepted := dispatches.filterMap router.accept?
      let assembled := assembleAll backend.codec accepted s.invocations
      let served := router.serve backend s dispatches
      served.sent = s.sent ++ requests assembled.1 ∧
      served.state = (backend.transport.sendAll (requests assembled.1) s.state).2 ∧
      served.invocations = assembled.2) ∧
    ∀ d : Dispatch,
      let ended := router.call backend d.decoder d.method d.args s
      (router.route? d.method = none → ended = (.error (.unknownRoute d.method), s)) ∧
      (∀ r e, router.route? d.method = some r → r.call d.args = .error e →
        ended = (.error e, s)) ∧
      (∀ e, ended.1 = .error e → e.isRefusal = true → ended.2 = s) ∧
      ∀ r call, router.route? d.method = some r → r.call d.args = .ok call →
        (∀ e i, call.assemble backend.codec s.invocations = (.error e, i) →
          ended = (.error e, { s with invocations := i }) ∧
          ∃ body cause, call.body? = some body ∧ backend.codec.encode body = .error cause ∧
            e = .ofCodec cause) ∧
        ∀ request i, call.assemble backend.codec s.invocations = (.ok request, i) →
          ended =
            (r.classify backend.codec d.decoder (backend.transport.send request s.state).1,
              ⟨i, (backend.transport.send request s.state).2, s.sent ++ [request]⟩) := by
  refine ⟨fun dispatches => ?_, fun d => ⟨fun hr => ?_, fun r e hr hcall => ?_,
    fun e hreply he => ?_, fun r call hr hcall => ?_⟩⟩
  · rw [serve_eq]
    exact ⟨rfl, rfl, rfl⟩
  · exact call_of_route?_eq_none hr backend d.decoder d.args s
  · rw [Router.call, hr]
    exact Route.execute_of_refused hcall
  · have hrefused : router.accept? d = none := accept?_eq_none_iff.mpr ⟨e, he, hreply⟩
    obtain ⟨_, -, hcall⟩ := call_of_refused backend s hrefused
    rw [hcall]
  · obtain ⟨rfl, -⟩ := Route.call_eq_ok_iff.mp hcall
    have haccept : router.accept? d = some ⟨r, d.args⟩ := accept?_eq_some_iff.mpr ⟨hr, hcall⟩
    refine ⟨fun e i hassemble => ⟨call_of_unencoded haccept hassemble, ?_⟩,
      fun request i hassemble => call_of_sent haccept hassemble⟩
    exact Call.exists_encode_of_assemble (congrArg Prod.fst hassemble)

end Calls

namespace Sample

/-- A backend whose transport keeps what it receives, and whose codec cannot encode anything. -/
def recording : Backend (List Request) where
  transport := ⟨fun request received => (.ok (.ofCode 200), received ++ [request])⟩
  codec := Sample.backend.codec

/-- The route of the method without parameters. -/
def listRoute : Route :=
  ⟨list.signature, ⟨[.accessor "a", .literal "/", .accessor "b", .accessor "a"]⟩, .get, none,
    some (.constant .empty), .unit, .plain, [],
    (Table.empty.insert "a" (.cycle "" ["x", "y", "z"])).insert "b" (.constant "w")⟩

/-- The only request of the calls that can be sent. The call before it, which failed for its body,
has taken the first answer of the accessor. -/
def sent : Request := ⟨.get, "y/wz", .empty, none, .unit⟩

end Sample

/-- Of calls that fail in each way in which a call can fail before it is sent, and one that does
not, the transport receives the request of the last one only. -/
theorem sent_eq_assembled_sample :
    ∃ router r call i, Sample.plan.build = .ok router ∧
      (router.serve Sample.recording (.start []) Sample.dispatches).sent = [Sample.sent] ∧
      (router.serve Sample.recording (.start []) Sample.dispatches).state = [Sample.sent] ∧
      router.route? Sample.list.signature = some r ∧ r.call [] = .ok call ∧
      call.assemble Sample.recording.codec ⟨[.accessor "a"]⟩ = (.ok Sample.sent, i) ∧
      router.call Sample.recording Except.ok Sample.list.signature [] ⟨⟨[.accessor "a"]⟩, [], []⟩ =
        (.ok (.value none), ⟨i, [Sample.sent], [Sample.sent]⟩) := by
  have hbuild : Sample.plan.build = .ok (Sample.plan.build.toOption.getD ⟨.empty⟩) := rfl
  have hroute : (Sample.plan.build.toOption.getD ⟨.empty⟩).route? Sample.list.signature =
      some Sample.listRoute := rfl
  have hcall : Sample.listRoute.call [] = .ok ⟨Sample.listRoute, []⟩ := rfl
  have hassemble : (Call.mk Sample.listRoute []).assemble Sample.recording.codec
      ⟨[.accessor "a"]⟩ = (.ok Sample.sent, ⟨[.accessor "a", .provider Sample.list.signature,
        .accessor "a", .accessor "b", .accessor "a"]⟩) := rfl
  obtain ⟨hserve, -⟩ := sent_eq_assembled (Sample.plan.build.toOption.getD ⟨.empty⟩)
    Sample.recording (.start [])
  obtain ⟨hsent, hstate, -⟩ := hserve Sample.dispatches
  obtain ⟨-, hsingle⟩ := sent_eq_assembled (Sample.plan.build.toOption.getD ⟨.empty⟩)
    Sample.recording ⟨⟨[.accessor "a"]⟩, [], []⟩
  obtain ⟨-, -, -, hended⟩ := hsingle ⟨Value, .ok, Sample.list.signature, []⟩
  obtain ⟨-, hsend⟩ := hended Sample.listRoute ⟨Sample.listRoute, []⟩ hroute hcall
  refine ⟨_, _, _, _, hbuild, hsent.trans ?_, hstate.trans ?_, hroute, hcall, hassemble,
    hsend Sample.sent _ hassemble⟩
  · decide +kernel
  · decide +kernel

end Router

end MethodRoutes

import Mathlib.Algebra.GroupWithZero.Nat
import MethodRoutes.Proofs.Route.Assembly
import MethodRoutes.Proofs.Router.Build

/-!
# What a router invokes

Accessors and headers providers are invoked when a request is assembled, and at no other time. So
the invocations after a sequence of calls are those of the calls that came as far as the assembly,
one after the other, whatever became of them later.

## Main definitions

* `Dispatch`, `Router.serve` — a sequence of calls of one router
* `Router.accept?` — the checked call that a dispatch comes to, if it comes that far

## Main results

* `Route.execute_of_refused`, `Route.execute_of_unencoded`, `Route.execute_of_sent` — how a call of
  a route can end
* `Router.invocations_serve`, `Router.accessors_serve` — the invocations of a sequence of calls
* `Router.invocations_of_notation` — when user code runs, in which order, and how it is answered
-/

namespace MethodRoutes

open Json (Value)

/-! ## Carrying out a call -/

section Execute

variable {σ ρ : Type} {backend : Backend σ} {decoder : Decoder ρ} {s : Session σ} {r : Route}
  {args : List Value} {call : Call} {i : Invocations} {e : RoutingError} {request : Request}

/-- A call whose arguments do not fit changes nothing. -/
theorem Route.execute_of_refused (h : r.call args = .error e) :
    r.execute backend decoder args s = (.error e, s) := by
  rw [execute, h]
  rfl

/-- A call whose body has no encoding leaves nothing but its invocations. -/
theorem Route.execute_of_unencoded (h : r.call args = .ok call)
    (hassemble : call.assemble backend.codec s.invocations = (.error e, i)) :
    r.execute backend decoder args s = (.error e, { s with invocations := i }) := by
  rw [execute, h]
  simp only [Session.invoking, bind, StateT.bind, StateT.run, hassemble]
  rfl

/-- A call whose request is assembled hands it to the transport, and classifies the outcome. -/
theorem Route.execute_of_sent (h : r.call args = .ok call)
    (hassemble : call.assemble backend.codec s.invocations = (.ok request, i)) :
    r.execute backend decoder args s =
      (r.classify backend.codec decoder (backend.transport.send request s.state).1,
        ⟨i, (backend.transport.send request s.state).2, s.sent ++ [request]⟩) := by
  rw [execute, h]
  simp only [Session.invoking, bind, StateT.bind, StateT.run, hassemble]
  rfl

end Execute

/-! ## Sequences of calls -/

/-- A call as its caller asks for it. -/
structure Dispatch where
  /-- The type that the result is decoded into. -/
  Result : Type
  /-- How the result is decoded. -/
  decoder : Decoder Result
  /-- The method to call. -/
  method : Signature
  /-- The arguments, which need not fit. -/
  args : List Value

namespace Router

section Serve

variable {σ : Type}

/-- Carry out calls one after the other. -/
def serve (router : Router) (backend : Backend σ) (s : Session σ) (dispatches : List Dispatch) :
    Session σ :=
  dispatches.foldl (fun s d => (router.call backend d.decoder d.method d.args s).2) s

/-- The checked call that a dispatch comes to, if its method has a route and its arguments fit. -/
def accept? (router : Router) (d : Dispatch) : Option Call :=
  (router.route? d.method).bind fun r => (r.call d.args).toOption

variable {router : Router} {backend : Backend σ} {s : Session σ} {d : Dispatch} {call : Call}

theorem accept?_eq_some_iff : router.accept? d = some call ↔
    router.route? d.method = some call.route ∧ call.route.call d.args = .ok call := by
  rw [accept?, Option.bind_eq_some_iff]
  constructor
  · rintro ⟨r, hr, hcall⟩
    cases h : r.call d.args with
    | error e =>
      rw [h] at hcall
      cases hcall
    | ok call' =>
      rw [h] at hcall
      cases hcall
      obtain ⟨rfl, -⟩ := Route.call_eq_ok_iff.mp h
      exact ⟨hr, h⟩
  · rintro ⟨hr, hcall⟩
    exact ⟨call.route, hr, by rw [hcall]; rfl⟩

theorem wellFormed_of_build {plan : Plan} {method : Signature} {r : Route}
    (h : plan.build = .ok router) (hr : router.route? method = some r) : r.WellFormed := by
  obtain ⟨m, -, hcompile, -⟩ := exists_compile_of_build h hr
  exact (Route.isCompiled_of_compile hcompile).wellFormed

/-- A dispatch that does not come to a checked call changes nothing. -/
theorem call_of_accept?_eq_none (h : router.accept? d = none) :
    (router.call backend d.decoder d.method d.args s).2 = s := by
  rw [Router.call]
  rw [accept?] at h
  cases hr : router.route? d.method with
  | none => rfl
  | some r =>
    rw [hr, Option.bind_some] at h
    cases hcall : r.call d.args with
    | error e =>
      dsimp only
      rw [Route.execute_of_refused hcall]
    | ok call =>
      rw [hcall] at h
      cases h

/-- A dispatch that comes to a checked call invokes what its route invokes, whether or not the
request can be assembled. -/
theorem invocations_call_of_accept?_eq_some (h : router.accept? d = some call)
    (hroute : call.route.WellFormed) :
    (router.call backend d.decoder d.method d.args s).2.invocations =
      s.invocations.after call.route.invocations := by
  obtain ⟨hr, hcall⟩ := accept?_eq_some_iff.mp h
  have hleft : (call.assemble backend.codec s.invocations).2 =
      s.invocations.after call.route.invocations := by rw [Call.assemble_run hroute]
  rw [Router.call, hr]
  dsimp only
  rw [← hleft]
  -- The codec decides how the call ends, but not what it leaves in the log.
  cases hassemble : call.assemble backend.codec s.invocations with
  | mk result i =>
    cases result with
    | error e => rw [Route.execute_of_unencoded hcall hassemble]
    | ok request => rw [Route.execute_of_sent hcall hassemble]

/-- Calls add, one after the other, what the routes of those invoke that come to a checked call. -/
theorem invocations_serve (hroutes : ∀ method r, router.route? method = some r → r.WellFormed)
    (dispatches : List Dispatch) :
    (router.serve backend s dispatches).invocations =
      s.invocations.after
        ((dispatches.filterMap router.accept?).flatMap fun call => call.route.invocations) := by
  -- What a call adds does not depend on the calls before it, so the session can be any.
  induction dispatches generalizing s with
  | nil => exact Invocations.after_nil.symm
  | cons d dispatches ih =>
    rw [serve, List.foldl_cons, ← serve, ih]
    cases haccept : router.accept? d with
    | none => rw [call_of_accept?_eq_none haccept, List.filterMap_cons_none haccept]
    | some call =>
      have hroute : call.route.WellFormed := hroutes _ _ (accept?_eq_some_iff.mp haccept).1
      rw [invocations_call_of_accept?_eq_some haccept hroute, List.filterMap_cons_some haccept,
        List.flatMap_cons, Invocations.after_after]

/-- Each accessor is invoked as often as it occurs in the destinations of the calls. -/
theorem accessors_serve (hroutes : ∀ method r, router.route? method = some r → r.WellFormed)
    (dispatches : List Dispatch) (name : String) :
    (router.serve backend s dispatches).invocations.accessors name =
      s.invocations.accessors name + ((dispatches.filterMap router.accept?).map fun call =>
        call.route.destination.segments.count (.accessor name)).sum := by
  have hcount : (fun more : List Invocation => more.count (.accessor name)) ∘
      (fun call : Call => call.route.invocations) =
      fun call => call.route.destination.segments.count (.accessor name) :=
    funext fun call => Route.count_invocations call.route name
  rw [invocations_serve hroutes, Invocations.accessors_after, List.count_flatMap, hcount]

end Serve

/-- When user code runs, in which order, and how it is answered.

No accessor and no headers provider is looked at when a method is compiled, a router is built, a
route is looked up or arguments are checked, whether that succeeds or fails: with other accessors
and providers the result is the same but for them.

The assembly of a request invokes the provider that is attached to the method, once, and then the
accessors of the destination from left to right. At each of its occurrences an accessor gives the
next of its answers. The invocations are the same for every codec, also if it fails.

So after a sequence of calls of a router, what has been invoked is what the routes of those calls
invoke, one after the other, whose method has a route and whose arguments fit. -/
theorem invocations_of_notation :
    (∀ (f : Accessor → Accessor) (g : HeadersProvider → HeadersProvider),
      (∀ m b, Route.compile m (b.mapSources f g) = (Route.compile m b).map (Route.mapSources f g)) ∧
      (∀ plan : Plan, (plan.mapSources f g).build = plan.build.map (mapSources f g)) ∧
      (∀ (router : Router) (method : Signature),
        (router.mapSources f g).route? method =
          (router.route? method).map (Route.mapSources f g)) ∧
      ∀ (r : Route) (args : List Value),
        (r.mapSources f g).call args = (r.call args).map (Call.mapSources f g)) ∧
    (∀ m b r args call, Route.compile m b = .ok r → r.call args = .ok call → ∀ codec i,
      let provider := b.providers.get? m.signature
      call.assemble codec i =
        (Call.attachBody codec
          ⟨r.verb, String.join (call.texts i),
            (provider.map fun p => p.answer (i.providers m.signature)).getD .empty,
            none, r.resultType⟩ call.body?,
          i.after ((provider.map fun _ => .provider m.signature).toList ++
            r.destination.accessors.map .accessor)) ∧
      ∀ before name after, r.destination.segments = before ++ .accessor name :: after →
        ∃ source, b.accessors.get? name = some source ∧
          (call.texts i)[before.length]? =
            some (source.answer (i.accessors name + before.count (.accessor name)))) ∧
    ∀ (plan : Plan) (router : Router), plan.build = .ok router →
      ∀ {σ : Type} (backend : Backend σ) (s : Session σ) (dispatches : List Dispatch),
        let accepted := dispatches.filterMap router.accept?
        let invocations := (router.serve backend s dispatches).invocations
        (∀ call ∈ accepted, ∃ m ∈ plan.methods, Route.compile m plan.bindings = .ok call.route) ∧
        invocations = s.invocations.after (accepted.flatMap fun call => call.route.invocations) ∧
        ∀ name, invocations.accessors name = s.invocations.accessors name +
          (accepted.map fun call =>
            call.route.destination.segments.count (.accessor name)).sum := by
  refine ⟨fun f g => ⟨Route.compile_mapSources f g, Plan.build_mapSources f g,
    route?_mapSources f g, Route.call_mapSources f g⟩, ?_, ?_⟩
  · intro m b r args call hcompile hcall codec i
    have hcompiled := Route.isCompiled_of_compile hcompile
    obtain ⟨rfl, -⟩ := Route.call_eq_ok_iff.mp hcall
    refine ⟨?_, fun before name after hsegments => ?_⟩
    · rw [Call.assemble_run hcompiled.wellFormed, Route.invocations, Route.providerInvocations,
        hcompiled.provider, hcompiled.signature]
      rfl
    · have hname : name ∈ r.destination.accessors := by
        rw [Destination.mem_accessors_iff, hsegments]
        exact List.mem_append_right before List.mem_cons_self
      obtain ⟨source, hsource⟩ := hcompiled.wellFormed.bound name hname
      refine ⟨source, ?_, Call.getElem?_texts hsegments hsource⟩
      rw [← hsource, hcompiled.accessors, if_pos hname]
  · intro plan router hbuild σ backend s dispatches
    have hroutes : ∀ method r, router.route? method = some r → r.WellFormed :=
      fun _ _ => wellFormed_of_build hbuild
    refine ⟨fun call hcall => ?_, invocations_serve hroutes dispatches,
      accessors_serve hroutes dispatches⟩
    obtain ⟨d, -, haccept⟩ := List.mem_filterMap.mp hcall
    obtain ⟨m, hmem, hcompile, -⟩ :=
      exists_compile_of_build hbuild (accept?_eq_some_iff.mp haccept).1
    exact ⟨m, hmem, hcompile⟩

namespace Sample

/-- A method that asks for the same accessor twice. -/
def list : Method := ⟨"list", [], none, "\x7ba()\x7d/\x7bb()\x7d\x7ba()\x7d", .plain, .unit⟩

/-- A method with a body that shares an accessor with the other one. -/
def save : Method :=
  ⟨"save", [.text "id", (Parameter.ofType "item" "Item").asBody], some .put,
    "\x7ba()\x7d/\x7b0\x7d", .plain, .unit⟩

/-- Both methods, of which one has a provider. -/
def plan : Plan where
  bindings := ((Bindings.empty.withAccessor "a" (.cycle "" ["x", "y", "z"])).withAccessor "b"
    (.constant "w")).withProvider list.signature (.constant .empty)
  methods := [list, save]

/-- A backend that answers every request, with a codec that cannot encode anything. -/
def backend : Backend Unit where
  transport := ⟨fun _ state => (.ok (.ofCode 200), state)⟩
  codec := ⟨fun _ => .error (.encode "no"), fun _ _ => .ok .null, ""⟩

/-- Calls that fail in each way in which a call can fail before it is sent, and one that does
not. -/
def dispatches : List Dispatch :=
  [⟨Value, .ok, ⟨"list"⟩, []⟩, ⟨Value, .ok, list.signature, [.null]⟩,
    ⟨Value, .ok, save.signature, [.null, .bool true]⟩,
    ⟨Value, .ok, save.signature, [.string "7", .bool true]⟩, ⟨Value, .ok, list.signature, []⟩]

end Sample

/-- The log of calls that fail for want of a route, for a wrong number of arguments, for an absent
argument and for a body that has no encoding, before one is sent. Only the last two of them have
invoked anything. -/
theorem invocations_of_notation_sample :
    ∃ router r call, Sample.plan.build = .ok router ∧
      Route.compile Sample.list Sample.plan.bindings = .ok r ∧ r.call [] = .ok call ∧
      (router.serve Sample.backend (.start ()) Sample.dispatches).invocations =
        ⟨[.accessor "a", .provider Sample.list.signature, .accessor "a", .accessor "b",
          .accessor "a"]⟩ ∧
      (router.serve Sample.backend (.start ()) Sample.dispatches).invocations.accessors "a" = 3 ∧
      (call.texts ⟨[.accessor "a"]⟩)[3]? = some "z" ∧
      call.assemble Sample.backend.codec ⟨[.accessor "a"]⟩ =
        (.ok ⟨.get, "y/wz", .empty, none, .unit⟩,
          ⟨[.accessor "a", .provider Sample.list.signature, .accessor "a", .accessor "b",
            .accessor "a"]⟩) := by
  obtain ⟨-, hassemble, hserve⟩ := invocations_of_notation
  have hbuild : Sample.plan.build = .ok (Sample.plan.build.toOption.getD ⟨.empty⟩) := rfl
  have hcompile : Route.compile Sample.list Sample.plan.bindings =
      .ok ⟨Sample.list.signature,
        ⟨[.accessor "a", .literal "/", .accessor "b", .accessor "a"]⟩, .get, none,
        some (.constant .empty), .unit, .plain, [],
        (Table.empty.insert "a" (.cycle "" ["x", "y", "z"])).insert "b" (.constant "w")⟩ := rfl
  obtain ⟨-, hlog, hcounts⟩ := hserve _ _ hbuild Sample.backend (.start ()) Sample.dispatches
  obtain ⟨hrequest, htexts⟩ :=
    hassemble _ _ _ [] _ hcompile rfl Sample.backend.codec ⟨[.accessor "a"]⟩
  obtain ⟨source, hsource, hanswer⟩ :=
    htexts [.accessor "a", .literal "/", .accessor "b"] "a" [] rfl
  cases hsource
  exact ⟨_, _, _, hbuild, hcompile, rfl, hlog.trans rfl, (hcounts "a").trans rfl,
    hanswer.trans rfl, hrequest.trans rfl⟩

end Router

end MethodRoutes

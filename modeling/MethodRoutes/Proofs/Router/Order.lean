import Mathlib.Data.List.Perm.Basic
import MethodRoutes.Proofs.Router.Served

/-!
# The order in which a router is set up

A router is set up by registrations: accessors, headers providers and methods, in any order. A
method may come before the accessors that its destination invokes, since nothing is compiled until
all registrations have been taken. So the order counts in one respect only: of several accessors
with one name, and of several providers for one method, the last one stays.

The bindings of a plan are therefore described by their lookups, as what was registered last. Two
orders give the same lookups and the same methods up to order; a compilation looks at nothing else
of the bindings, and whether all methods can be added does not depend on their order.

## Main definitions

* `Registration.accessorAt?`, `Registration.providerAt?`, `Registration.added` — what a
  registration contributes
* `Registration.Reordered` — the orders that are compared

## Main results

* `Plan.get?_accessors_registerAll`, `Plan.get?_providers_registerAll`,
  `Plan.methods_registerAll` — what a plan holds after all registrations
* `Route.compile_congr` — a compilation depends on the lookups of the bindings only
* `Router.exists_foldlM_addMethod_iff_nodup` — when all methods can be added, without their order
* `Plan.build_reordered` — the order of the registrations does not matter
-/

namespace MethodRoutes

namespace Registration

/-- The accessor that a registration gives a name. -/
def accessorAt? (name : String) : Registration → Option Accessor
  | .accessor n source => if n = name then some source else none
  | .provider _ _ => none
  | .methods _ => none

/-- The provider that a registration attaches to a method. -/
def providerAt? (method : Signature) : Registration → Option HeadersProvider
  | .accessor _ _ => none
  | .provider m source => if m = method then some source else none
  | .methods _ => none

/-- The methods that a registration adds. -/
def added : Registration → List Method
  | .accessor _ _ => []
  | .provider _ _ => []
  | .methods list => list

/-- The same registrations in another order, in which the accessors of each name, and the
providers of each method, still follow one another as before. -/
structure Reordered (steps steps' : List Registration) : Prop where
  /-- The registrations are the same. -/
  perm : steps.Perm steps'
  /-- The accessors of a name keep their order. -/
  accessors : ∀ name, steps.filterMap (accessorAt? name) = steps'.filterMap (accessorAt? name)
  /-- The providers of a method keep their order. -/
  providers : ∀ method,
    steps.filterMap (providerAt? method) = steps'.filterMap (providerAt? method)

end Registration

open Registration (accessorAt? providerAt? added Reordered)

/-! ## What a plan holds after all registrations -/

namespace Plan

variable (plan : Plan) (step : Registration) (steps : List Registration)

theorem get?_accessors_register (name : String) :
    (plan.register step).bindings.accessors.get? name =
      (accessorAt? name step).or (plan.bindings.accessors.get? name) := by
  cases step with
  | accessor n accessor =>
    by_cases hn : n = name
    · simp [register, Bindings.withAccessor, accessorAt?, hn]
    · simp [register, Bindings.withAccessor, accessorAt?, hn]
  | provider => rfl
  | methods => rfl

theorem get?_providers_register (method : Signature) :
    (plan.register step).bindings.providers.get? method =
      (providerAt? method step).or (plan.bindings.providers.get? method) := by
  cases step with
  | accessor => rfl
  | provider m provider =>
    by_cases hm : m = method
    · simp [register, Bindings.withProvider, providerAt?, hm]
    · simp [register, Bindings.withProvider, providerAt?, hm]
  | methods => rfl

theorem methods_register : (plan.register step).methods = plan.methods ++ added step := by
  cases step with
  | accessor => exact (List.append_nil _).symm
  | provider => exact (List.append_nil _).symm
  | methods => rfl

/-- A name has the accessor that was registered last. -/
theorem get?_accessors_registerAll (name : String) :
    (plan.registerAll steps).bindings.accessors.get? name =
      (steps.filterMap (accessorAt? name)).getLast?.or (plan.bindings.accessors.get? name) := by
  induction steps generalizing plan with
  | nil => rfl
  | cons step steps ih =>
    have hcons : plan.registerAll (step :: steps) = (plan.register step).registerAll steps := rfl
    rw [hcons, ih, get?_accessors_register, getLast?_filterMap_cons]

/-- A method has the provider that was attached last. -/
theorem get?_providers_registerAll (method : Signature) :
    (plan.registerAll steps).bindings.providers.get? method =
      (steps.filterMap (providerAt? method)).getLast?.or
        (plan.bindings.providers.get? method) := by
  induction steps generalizing plan with
  | nil => rfl
  | cons step steps ih =>
    have hcons : plan.registerAll (step :: steps) = (plan.register step).registerAll steps := rfl
    rw [hcons, ih, get?_providers_register, getLast?_filterMap_cons]

/-- The methods are those that were added, in order. -/
theorem methods_registerAll :
    (plan.registerAll steps).methods = plan.methods ++ steps.flatMap added := by
  induction steps generalizing plan with
  | nil => exact (List.append_nil _).symm
  | cons step steps ih =>
    have hcons : plan.registerAll (step :: steps) = (plan.register step).registerAll steps := rfl
    rw [hcons, ih, methods_register, List.flatMap_cons, List.append_assoc]

end Plan

/-! ## What does not depend on the order -/

/-- A compilation looks at the bindings through their lookups only. -/
theorem Route.compile_congr {b b' : Bindings}
    (haccessors : ∀ name, b.accessors.get? name = b'.accessors.get? name)
    (hproviders : ∀ method, b.providers.get? method = b'.providers.get? method) (m : Method) :
    compile m b = compile m b' := by
  have hbind : bindAccessor m b = bindAccessor m b' := by
    funext found name
    rw [bindAccessor, bindAccessor, haccessors]
  rw [compile, compile, hbind, hproviders]

namespace Router

variable {b b' : Bindings} {methods methods' : List Method} {router router' : Router}

/-- All methods can be added exactly if each of them compiles and no signature occurs twice. -/
theorem exists_foldlM_addMethod_iff_nodup :
    (∃ routes, methods.foldlM (addMethod b) .empty = .ok routes) ↔
      (∀ m ∈ methods, ∃ r, Route.compile m b = .ok r) ∧
        (methods.map Method.signature).Nodup := by
  constructor
  · rintro ⟨routes, hroutes⟩
    have hheld : Holds b routes methods := holds_of_foldlM holds_empty hroutes
    refine ⟨fun m hm => ?_, hheld.keys ▸ routes.nodup_keys⟩
    obtain ⟨r, hr, -⟩ := hheld.route m hm
    exact ⟨r, hr⟩
  · rintro ⟨hcompile, hnodup⟩
    apply exists_foldlM_addMethod_iff.mpr
    rintro i ⟨m, hm, ⟨e, he⟩ | ⟨j, m', hj, hm', hsignature⟩⟩
    · obtain ⟨r, hr⟩ := hcompile m (List.mem_of_getElem? hm)
      rw [he] at hr
      cases hr
    · -- The two positions have one signature, so they are one position.
      have hlt : j < (methods.map Method.signature).length := by
        rw [List.length_map]
        exact (List.getElem?_eq_some_iff.mp hm').1
      have heq : (methods.map Method.signature)[j]? = (methods.map Method.signature)[i]? := by
        rw [List.getElem?_map, List.getElem?_map, hm, hm', Option.map_some, Option.map_some,
          hsignature]
      exact Nat.ne_of_lt hj ((List.getElem?_inj hlt hnodup).mp heq)

/-- Methods that can be added in one order can be added in every order. -/
theorem exists_foldlM_addMethod_of_perm (hperm : methods.Perm methods')
    (hcompile : ∀ m, Route.compile m b = Route.compile m b')
    (h : ∃ routes, methods.foldlM (addMethod b) .empty = .ok routes) :
    ∃ routes, methods'.foldlM (addMethod b') .empty = .ok routes := by
  obtain ⟨hcompiled, hnodup⟩ := exists_foldlM_addMethod_iff_nodup.mp h
  refine exists_foldlM_addMethod_iff_nodup.mpr ⟨fun m hm => ?_, ?_⟩
  · rw [← hcompile]
    exact hcompiled m (hperm.mem_iff.mpr hm)
  · exact (hperm.map Method.signature).nodup_iff.mp hnodup

/-- The route of a signature is what the method with that signature compiles to. -/
theorem route?_eq_some_iff (h : Holds b router.routes methods) {s : Signature} {r : Route} :
    router.route? s = some r ↔
      ∃ m ∈ methods, m.signature = s ∧ Route.compile m b = .ok r := by
  constructor
  · intro hr
    obtain ⟨m, hm, hsignature, hcompile, -⟩ := exists_compile_of_route? h hr
    exact ⟨m, hm, hsignature, hcompile⟩
  · rintro ⟨m, hm, rfl, hcompile⟩
    obtain ⟨r', hr', hget⟩ := h.route m hm
    cases hcompile.symm.trans hr'
    exact hget

/-- Routers that hold the same methods serve the same routes. -/
theorem route?_eq_of_perm (hperm : methods.Perm methods')
    (hcompile : ∀ m, Route.compile m b = Route.compile m b')
    (h : Holds b router.routes methods) (h' : Holds b' router'.routes methods') (s : Signature) :
    router.route? s = router'.route? s := by
  apply Option.ext
  intro r
  rw [route?_eq_some_iff h, route?_eq_some_iff h']
  simp only [hperm.mem_iff, hcompile]

end Router

/-! ## The order of the registrations -/

namespace Plan

/-- Registrations can be made in any order that keeps those of one accessor, and of one provider,
in theirs. Either there is a router for both orders or for none; both routers have the same
signatures and the same route under each of them; and such a route has bound what was registered
last. -/
theorem build_reordered {steps steps' : List Registration} (h : Reordered steps steps') :
    ((∃ router, (Plan.empty.registerAll steps).build = .ok router) ↔
      ∃ router, (Plan.empty.registerAll steps').build = .ok router) ∧
    ∀ router router', (Plan.empty.registerAll steps).build = .ok router →
      (Plan.empty.registerAll steps').build = .ok router' →
      router.signatures.Perm router'.signatures ∧
      (∀ s, router.route? s = router'.route? s) ∧
      ∀ s r, router.route? s = some r →
        (∀ name ∈ r.destination.accessors,
          r.accessors.get? name = (steps.filterMap (accessorAt? name)).getLast?) ∧
        r.provider = (steps.filterMap (providerAt? s)).getLast? := by
  have hmethods (steps : List Registration) :
      (Plan.empty.registerAll steps).methods = steps.flatMap added :=
    methods_registerAll .empty steps
  have haccessors (steps : List Registration) (name : String) :
      (Plan.empty.registerAll steps).bindings.accessors.get? name =
        (steps.filterMap (accessorAt? name)).getLast? := by
    rw [get?_accessors_registerAll]
    exact Option.or_none
  have hproviders (steps : List Registration) (method : Signature) :
      (Plan.empty.registerAll steps).bindings.providers.get? method =
        (steps.filterMap (providerAt? method)).getLast? := by
    rw [get?_providers_registerAll]
    exact Option.or_none
  -- Both orders add the same methods, and compile them to the same routes.
  have hperm : (Plan.empty.registerAll steps).methods.Perm
      (Plan.empty.registerAll steps').methods := by
    rw [hmethods, hmethods]
    exact h.perm.flatMap_right added
  have hcompile : ∀ m, Route.compile m (Plan.empty.registerAll steps).bindings =
      Route.compile m (Plan.empty.registerAll steps').bindings := by
    apply Route.compile_congr
    · intro name
      rw [haccessors, haccessors, h.accessors]
    · intro method
      rw [hproviders, hproviders, h.providers]
  constructor
  · constructor
    · rintro ⟨router, hbuild⟩
      obtain ⟨routes, hroutes⟩ := Router.exists_foldlM_addMethod_of_perm hperm hcompile
        ⟨_, build_eq_ok_iff.mp hbuild⟩
      exact ⟨⟨routes⟩, build_eq_ok_iff.mpr hroutes⟩
    · rintro ⟨router, hbuild⟩
      obtain ⟨routes, hroutes⟩ := Router.exists_foldlM_addMethod_of_perm hperm.symm
        (fun m => (hcompile m).symm) ⟨_, build_eq_ok_iff.mp hbuild⟩
      exact ⟨⟨routes⟩, build_eq_ok_iff.mpr hroutes⟩
  · intro router router' hbuild hbuild'
    have hheld := Router.holds_of_foldlM Router.holds_empty (build_eq_ok_iff.mp hbuild)
    have hheld' := Router.holds_of_foldlM Router.holds_empty (build_eq_ok_iff.mp hbuild')
    rw [List.nil_append] at hheld hheld'
    refine ⟨?_, Router.route?_eq_of_perm hperm hcompile hheld hheld', fun s r hr => ?_⟩
    · rw [Router.signatures, Router.signatures, hheld.keys, hheld'.keys]
      exact hperm.map Method.signature
    · obtain ⟨m, -, rfl, hr, -⟩ := Router.exists_compile_of_route? hheld hr
      have hcompiled := Route.isCompiled_of_compile hr
      refine ⟨fun name hname => ?_, ?_⟩
      · rw [hcompiled.accessors, if_pos hname, haccessors]
      · rw [hcompiled.provider, hproviders]

namespace Sample

/-- A method that invokes an accessor. -/
def status : Method := ⟨"status", [], none, "\x7broot()\x7d/status", .plain, .value "String"⟩

/-- A provider of headers. -/
def tenant : HeadersProvider := .constant (Table.empty.insert "X-Tenant" "acme")

/-- The method comes first, and its accessor is registered twice. -/
def methodFirst : List Registration :=
  [.methods [status], .accessor "root" (.constant "/old"), .accessor "root" (.constant "/api"),
    .provider status.signature tenant]

/-- The method comes last, and the provider between the two accessors. -/
def methodLast : List Registration :=
  [.accessor "root" (.constant "/old"), .provider status.signature tenant,
    .accessor "root" (.constant "/api"), .methods [status]]

end Sample

/-- The method finds the accessor that was registered last, whether it comes before or after it. -/
theorem build_reordered_sample :
    Reordered Sample.methodFirst Sample.methodLast ∧
    ∃ router router' r, (Plan.empty.registerAll Sample.methodFirst).build = .ok router ∧
      (Plan.empty.registerAll Sample.methodLast).build = .ok router' ∧
      router.signatures.Perm router'.signatures ∧
      router.route? ⟨"status()"⟩ = some r ∧ router'.route? ⟨"status()"⟩ = some r ∧
      r.accessors.get? "root" = some (.constant "/api") ∧ r.provider = some Sample.tenant := by
  have hreordered : Reordered Sample.methodFirst Sample.methodLast := by
    refine ⟨?_, fun _ => rfl, fun _ => rfl⟩
    have hlast : Sample.methodFirst.Perm (Sample.methodFirst.tail ++ [.methods [Sample.status]]) :=
      (List.perm_append_singleton _ Sample.methodFirst.tail).symm
    exact hlast.trans (.cons _ (.swap _ _ _))
  obtain ⟨hbuild, hsame⟩ := build_reordered hreordered
  obtain ⟨router', hrouter'⟩ := hbuild.mp ⟨_, rfl⟩
  obtain ⟨hsignatures, hroute, hbound⟩ := hsame _ router' rfl hrouter'
  obtain ⟨haccessors, hprovider⟩ := hbound ⟨"status()"⟩ _ rfl
  exact ⟨hreordered, _, router', _, rfl, hrouter', hsignatures, rfl,
    (hroute ⟨"status()"⟩).symm.trans rfl, haccessors "root" (by decide), hprovider⟩

end Plan

end MethodRoutes

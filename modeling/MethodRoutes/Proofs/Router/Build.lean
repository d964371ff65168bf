import MethodRoutes.Proofs.Route.Compile
import MethodRoutes.Router.Basic

/-!
# What building a router does, and what it does not

Every route of a router was compiled from a method of the plan. Nothing on the way to a checked
call looks at an accessor or at a headers provider: they are handed on as they are. To say so, this
file exchanges all of them for others and shows that compiling, building, looking up a route and
checking arguments come out the same, faults included, but for this exchange.

## Main definitions

* `Bindings.mapSources`, `Plan.mapSources`, `Route.mapSources`, `Router.mapSources`,
  `Call.mapSources` — the same with other accessors and providers

## Main results

* `Route.compile_mapSources`, `Plan.build_mapSources`, `Router.route?_mapSources`,
  `Route.call_mapSources` — no accessor and no provider is looked at
* `Router.exists_compile_of_build` — where the routes of a router come from
-/

namespace MethodRoutes

open Json (Value)

/-! ## Other sources -/

section Sources

variable (f : Accessor → Accessor) (g : HeadersProvider → HeadersProvider)

/-- The same names and signatures with other accessors and providers. -/
def Bindings.mapSources (b : Bindings) : Bindings :=
  ⟨b.accessors.mapValues f, b.providers.mapValues g⟩

/-- The same methods with other accessors and providers. -/
def Plan.mapSources (plan : Plan) : Plan := { plan with bindings := plan.bindings.mapSources f g }

/-- The same route with other accessors and another provider. -/
def Route.mapSources (r : Route) : Route :=
  { r with provider := r.provider.map g, accessors := r.accessors.mapValues f }

/-- The same routes with other accessors and providers. -/
def Router.mapSources (router : Router) : Router := ⟨router.routes.mapValues (Route.mapSources f g)⟩

/-- The same call of a route with other accessors and another provider. -/
def Call.mapSources (call : Call) : Call := { call with route := call.route.mapSources f g }

/-! ## Nothing is asked before a call is assembled -/

theorem Route.bindAccessor_mapSources (m : Method) (b : Bindings)
    (found : Table String Accessor) (name : String) :
    bindAccessor m (b.mapSources f g) (found.mapValues f) name =
      (bindAccessor m b found name).map (Table.mapValues f) := by
  rw [bindAccessor, bindAccessor, Bindings.mapSources, Table.get?_mapValues]
  cases b.accessors.get? name with
  | none => rfl
  | some accessor => exact congrArg Except.ok (Table.mapValues_insert f found name accessor).symm

/-- A compilation does not look at the accessors and providers. -/
theorem Route.compile_mapSources (m : Method) (b : Bindings) :
    compile m (b.mapSources f g) = (compile m b).map (mapSources f g) := by
  have hbind (names : List String) :
      names.foldlM (bindAccessor m (b.mapSources f g)) .empty =
        (names.foldlM (bindAccessor m b) .empty).map (Table.mapValues f) :=
    foldlM_map (bindAccessor_mapSources f g m b) names .empty
  have hprovider : (b.mapSources f g).providers.get? m.signature =
      (b.providers.get? m.signature).map g := Table.get?_mapValues g b.providers m.signature
  simp only [compile, hbind, hprovider, map_bind, bind_map]
  rfl

theorem Router.addMethod_mapSources (b : Bindings) (routes : Table Signature Route) (m : Method) :
    addMethod (b.mapSources f g) (routes.mapValues (Route.mapSources f g)) m =
      (addMethod b routes m).map (Table.mapValues (Route.mapSources f g)) := by
  rw [addMethod, addMethod, Route.compile_mapSources, bind_map, map_bind]
  congr 1
  funext route
  have hsignature : (route.mapSources f g).signature = route.signature := rfl
  have hcontains : (routes.mapValues (Route.mapSources f g)).contains route.signature =
      routes.contains route.signature := by
    rw [Table.contains, Table.contains, Table.get?_mapValues, Option.isSome_map]
  rw [hsignature, hcontains]
  cases routes.contains route.signature with
  | true => rfl
  | false => exact congrArg Except.ok (Table.mapValues_insert _ routes _ route).symm

/-- Building a router does not look at the accessors and providers. -/
theorem Plan.build_mapSources (plan : Plan) :
    (plan.mapSources f g).build = plan.build.map (Router.mapSources f g) := by
  have hroutes : plan.methods.foldlM (Router.addMethod (plan.bindings.mapSources f g)) .empty =
      (plan.methods.foldlM (Router.addMethod plan.bindings) .empty).map
        (Table.mapValues (Route.mapSources f g)) :=
    foldlM_map (Router.addMethod_mapSources f g plan.bindings) plan.methods .empty
  rw [build, build, mapSources, hroutes, bind_map, map_bind]
  rfl

/-- Looking up a route does not look at its accessors and its provider. -/
theorem Router.route?_mapSources (router : Router) (method : Signature) :
    (router.mapSources f g).route? method = (router.route? method).map (Route.mapSources f g) :=
  Table.get?_mapValues _ router.routes method

/-- The check of the arguments does not look at accessors and providers. -/
theorem Route.call_mapSources (r : Route) (args : List Value) :
    (r.mapSources f g).call args = (r.call args).map (Call.mapSources f g) := by
  have hparameters : (r.mapSources f g).parameters = r.parameters := rfl
  have hdestination : (r.mapSources f g).destination = r.destination := rfl
  rw [Route.call, Route.call, hparameters, hdestination]
  by_cases hlength : args.length ≠ r.parameters.length
  · rw [if_pos hlength, if_pos hlength]
    rfl
  · rw [if_neg hlength, if_neg hlength]
    cases r.destination.parameters.find? fun index => (argument args index).isNull <;> rfl

end Sources

/-! ## Where the routes of a router come from -/

variable {b : Bindings} {routes routes' : Table Signature Route} {m : Method} {r : Route}
  {method : Signature}

theorem Router.addMethod_eq_ok_iff :
    addMethod b routes m = .ok routes' ↔
      ∃ r, Route.compile m b = .ok r ∧ routes.get? r.signature = none ∧
        routes' = routes.insert r.signature r := by
  rw [addMethod, bind_eq_ok_iff]
  refine exists_congr fun r => and_congr_right fun _ => ?_
  rw [Table.contains]
  cases routes.get? r.signature with
  | none => simp [pure, Except.pure, eq_comm]
  | some route => simp

/-- After methods have been added, a route is one of those from before, or it was compiled from one
of the methods. -/
theorem Router.exists_compile_of_foldlM_addMethod {methods : List Method}
    (h : methods.foldlM (addMethod b) routes = .ok routes') (hr : routes'.get? method = some r) :
    routes.get? method = some r ∨
      ∃ m ∈ methods, Route.compile m b = .ok r ∧ r.signature = method := by
  -- A route that is found in the end was there after the first method, or came in later.
  induction methods generalizing routes with
  | nil =>
    cases h
    exact .inl hr
  | cons m methods ih =>
    rw [List.foldlM_cons, bind_eq_ok_iff] at h
    obtain ⟨added, hadded, hrest⟩ := h
    obtain ⟨route, hroute, -, rfl⟩ := addMethod_eq_ok_iff.mp hadded
    rcases ih hrest with hget | ⟨m', hmem, hcompile⟩
    · rw [Table.get?_insert] at hget
      split at hget
      · next hsignature =>
        cases hget
        exact .inr ⟨m, List.mem_cons_self, hroute, hsignature⟩
      · exact .inl hget
    · exact .inr ⟨m', List.mem_cons_of_mem m hmem, hcompile⟩

/-- Every route of a router was compiled from a method of the plan, with the plan's bindings, and
is looked up under its own signature. -/
theorem Router.exists_compile_of_build {plan : Plan} {router : Router}
    (h : plan.build = .ok router) (hr : router.route? method = some r) :
    ∃ m ∈ plan.methods, Route.compile m plan.bindings = .ok r ∧ r.signature = method := by
  obtain ⟨routes, hroutes, h⟩ := bind_eq_ok_iff.mp h
  cases h
  rcases exists_compile_of_foldlM_addMethod hroutes hr with hempty | hcompiled
  · cases hempty
  · exact hcompiled

end MethodRoutes

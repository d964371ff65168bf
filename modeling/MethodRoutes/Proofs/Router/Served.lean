import MethodRoutes.Proofs.Router.Build

/-!
# A router serves all of its methods, or there is none

Methods are compiled and added one after the other, and the table that grows on the way always
holds the routes of the methods so far, under their signatures. So the first method that does not
compile, or whose signature is taken, is the reason why there is no router; and without such a
method there is a route for each of them.

## Main definitions

* `Router.Stops` — a method that cannot be added to those before it
* `Router.Holds` — a table with the routes of some methods

## Main results

* `Router.Holds.addMethod`, `Router.holds_of_foldlM` — what adding one method, and all methods,
  leaves behind
* `Router.exists_foldlM_addMethod_iff` — all methods can be added if none of them stops
* `Plan.build_serves_all` — what a router serves, and why there is none
-/

namespace MethodRoutes

open Json (Value)

namespace Router

/-- The method at a position cannot be added to those before it: it does not compile, or one of
them has its signature. -/
def Stops (b : Bindings) (methods : List Method) (i : Nat) : Prop :=
  ∃ m, methods[i]? = some m ∧
    ((∃ e, Route.compile m b = .error e) ∨
      ∃ j m', j < i ∧ methods[j]? = some m' ∧ m'.signature = m.signature)

/-- The table holds the route of each of the methods, under its signature, and nothing else. -/
structure Holds (b : Bindings) (routes : Table Signature Route) (methods : List Method) : Prop where
  /-- The signatures of the methods are the keys. -/
  keys : routes.keys = methods.map Method.signature
  /-- Each method has been compiled, and its route is found under its signature. -/
  route : ∀ m ∈ methods, ∃ r, Route.compile m b = .ok r ∧ routes.get? m.signature = some r

variable {b : Bindings} {routes routes' : Table Signature Route} {m : Method} {r : Route}
  {before after methods : List Method} {e : CompileError}

/-! ## Adding one method -/

theorem holds_empty : Holds b .empty [] where
  keys := rfl
  route _ hm := by cases hm

/-- A method that is added finds its signature free, and then it is held with those before. -/
theorem Holds.addMethod (h : Holds b routes methods) (hadd : addMethod b routes m = .ok routes') :
    Holds b routes' (methods ++ [m]) := by
  obtain ⟨r, hr, hfree, rfl⟩ := addMethod_eq_ok_iff.mp hadd
  have hsignature : r.signature = m.signature := (Route.isCompiled_of_compile hr).signature
  rw [hsignature] at hfree ⊢
  have hnew : m.signature ∉ routes.keys := (Table.get?_eq_none_iff routes _).mp hfree
  constructor
  · rw [Table.keys_insert_of_not_mem hnew, h.keys, List.map_append]
    rfl
  · intro m' hm'
    rw [List.mem_append, List.mem_singleton] at hm'
    rcases hm' with hbefore | rfl
    · obtain ⟨r', hr', hget⟩ := h.route m' hbefore
      -- The signature is free, so it is not that of an earlier method.
      have hne : m.signature ≠ m'.signature := by
        intro heq
        rw [heq, hget] at hfree
        cases hfree
      exact ⟨r', hr', by rw [Table.get?_insert, if_neg hne, hget]⟩
    · exact ⟨r, hr, by rw [Table.get?_insert, if_pos rfl]⟩

/-- A method is turned down if it does not compile, or else if its signature is taken. -/
theorem Holds.addMethod_eq_error_iff (h : Holds b routes methods) :
    Router.addMethod b routes m = .error e ↔
      Route.compile m b = .error e ∨
      (∃ r, Route.compile m b = .ok r) ∧ m.signature ∈ methods.map Method.signature ∧
        e = .duplicate m.signature := by
  rw [Router.addMethod, bind_eq_error_iff, ← h.keys]
  refine or_congr_right ?_
  rw [← exists_and_right]
  refine exists_congr fun r => and_congr_right fun hr => ?_
  have hsignature : r.signature = m.signature := (Route.isCompiled_of_compile hr).signature
  rw [hsignature, Table.mem_keys_iff, Table.contains]
  by_cases htaken : (routes.get? m.signature).isSome
  · simp [htaken, eq_comm]
  · simp [htaken, pure, Except.pure]

/-! ## Adding all methods -/

/-- After all methods have been added, they are held with those from before. -/
theorem holds_of_foldlM (h : Holds b routes before)
    (hadd : methods.foldlM (addMethod b) routes = .ok routes') :
    Holds b routes' (before ++ methods) := by
  -- The method that has been added moves over to those before.
  induction methods generalizing routes before with
  | nil =>
    cases hadd
    rw [List.append_nil]
    exact h
  | cons m methods ih =>
    rw [List.foldlM_cons, bind_eq_ok_iff] at hadd
    obtain ⟨added, hm, hrest⟩ := hadd
    have hheld := ih (h.addMethod hm) hrest
    rwa [List.append_assoc, List.singleton_append] at hheld

/-- In a table that holds some methods, each signature belongs to one of them only. -/
theorem Holds.eq_of_signature_eq (h : Holds b routes methods) {i j : Nat} {m m' : Method}
    (hm : methods[i]? = some m) (hm' : methods[j]? = some m')
    (hsignature : m.signature = m'.signature) : i = j := by
  have hnodup : (methods.map Method.signature).Nodup := h.keys ▸ routes.nodup_keys
  have hlt : i < (methods.map Method.signature).length := by
    rw [List.length_map]
    exact (List.getElem?_eq_some_iff.mp hm).1
  have heq : (methods.map Method.signature)[i]? = (methods.map Method.signature)[j]? := by
    rw [List.getElem?_map, List.getElem?_map, hm, hm', Option.map_some, Option.map_some,
      hsignature]
  exact (List.getElem?_inj hlt hnodup).mp heq

/-- The first method that cannot be added decides how the others fail. -/
theorem foldlM_addMethod_eq_error_iff :
    methods.foldlM (addMethod b) .empty = .error e ↔
      ∃ before m after, methods = before ++ m :: after ∧
        (∃ routes, before.foldlM (addMethod b) .empty = .ok routes) ∧
        (Route.compile m b = .error e ∨
          (∃ r, Route.compile m b = .ok r) ∧ m.signature ∈ before.map Method.signature ∧
            e = .duplicate m.signature) := by
  rw [foldlM_eq_error_iff]
  refine exists_congr fun before => exists_congr fun m => exists_congr fun after => ?_
  constructor
  · rintro ⟨routes, hsplit, hbefore, hfails⟩
    have hheld : Holds b routes before := holds_of_foldlM holds_empty hbefore
    exact ⟨hsplit, ⟨routes, hbefore⟩, hheld.addMethod_eq_error_iff.mp hfails⟩
  · rintro ⟨hsplit, ⟨routes, hbefore⟩, hfails⟩
    have hheld : Holds b routes before := holds_of_foldlM holds_empty hbefore
    exact ⟨routes, hsplit, hbefore, hheld.addMethod_eq_error_iff.mpr hfails⟩

theorem stops_length_iff :
    Stops b (before ++ m :: after) before.length ↔
      (∃ e, Route.compile m b = .error e) ∨ m.signature ∈ before.map Method.signature := by
  have hm : (before ++ m :: after)[before.length]? = some m := by simp
  have hearlier : (∃ j m', j < before.length ∧ (before ++ m :: after)[j]? = some m' ∧
      m'.signature = m.signature) ↔ m.signature ∈ before.map Method.signature := by
    rw [List.mem_map]
    constructor
    · rintro ⟨j, m', hj, hm', hsignature⟩
      rw [List.getElem?_append_left hj] at hm'
      exact ⟨m', List.mem_of_getElem? hm', hsignature⟩
    · rintro ⟨m', hm', hsignature⟩
      obtain ⟨j, hj⟩ := List.mem_iff_getElem?.mp hm'
      have hlt : j < before.length := (List.getElem?_eq_some_iff.mp hj).1
      exact ⟨j, m', hlt, by rw [List.getElem?_append_left hlt, hj], hsignature⟩
  simp only [Stops, hm, Option.some.injEq, exists_eq_left', hearlier]

/-- Whether a method stops depends on the methods up to it only. -/
theorem stops_append_iff {i : Nat} (h : i < before.length) :
    Stops b (before ++ after) i ↔ Stops b before i := by
  rw [Stops, Stops, List.getElem?_append_left h]
  refine exists_congr fun m => and_congr_right fun _ => or_congr_right ?_
  refine exists_congr fun j => exists_congr fun m' => and_congr_right fun hj => ?_
  rw [List.getElem?_append_left (Nat.lt_trans hj h)]

/-- All methods can be added exactly if none of them stops. -/
theorem exists_foldlM_addMethod_iff :
    (∃ routes, methods.foldlM (addMethod b) .empty = .ok routes) ↔ ∀ i, ¬ Stops b methods i := by
  constructor
  · rintro ⟨routes, hroutes⟩ i ⟨m, hm, hstops⟩
    have hheld : Holds b routes methods := holds_of_foldlM holds_empty hroutes
    rcases hstops with ⟨e, he⟩ | ⟨j, m', hj, hm', hsignature⟩
    · obtain ⟨r, hr, -⟩ := hheld.route m (List.mem_of_getElem? hm)
      rw [he] at hr
      cases hr
    · exact Nat.ne_of_lt hj (hheld.eq_of_signature_eq hm' hm hsignature)
  · intro h
    cases hroutes : methods.foldlM (addMethod b) .empty with
    | ok routes => exact ⟨routes, rfl⟩
    | error e =>
      obtain ⟨before, m, after, rfl, -, hfails⟩ := foldlM_addMethod_eq_error_iff.mp hroutes
      refine absurd (stops_length_iff.mpr ?_) (h before.length)
      exact hfails.imp (fun he => ⟨e, he⟩) fun htaken => htaken.2.1

/-- The methods before the first one that stops can all be added. -/
theorem exists_split_of_stops {i : Nat} (hi : Stops b methods i)
    (hfirst : ∀ j < i, ¬ Stops b methods j) :
    ∃ before m after, methods = before ++ m :: after ∧ before.length = i ∧
      ∃ routes, before.foldlM (addMethod b) .empty = .ok routes := by
  obtain ⟨m, hm, -⟩ := hi
  obtain ⟨hlt, hget⟩ := List.getElem?_eq_some_iff.mp hm
  have hlength : (methods.take i).length = i := List.length_take_of_le (Nat.le_of_lt hlt)
  refine ⟨methods.take i, m, methods.drop (i + 1), ?_, hlength, ?_⟩
  · rw [← hget, ← List.drop_eq_getElem_cons hlt, List.take_append_drop]
  · refine exists_foldlM_addMethod_iff.mpr fun j hj => ?_
    have hlt : j < (methods.take i).length := by
      obtain ⟨m', hm', -⟩ := hj
      exact (List.getElem?_eq_some_iff.mp hm').1
    have hstops : Stops b (methods.take i ++ methods.drop i) j := (stops_append_iff hlt).mpr hj
    rw [List.take_append_drop] at hstops
    exact hfirst j (hlength ▸ hlt) hstops

/-! ## What is served -/

section Lookup

variable {router : Router} {s : Signature}

/-- Exactly the signatures of the methods have a route. -/
theorem exists_route?_iff (h : Holds b router.routes methods) :
    (∃ r, router.route? s = some r) ↔ ∃ m ∈ methods, m.signature = s := by
  rw [← List.mem_map, ← h.keys, Table.mem_keys_iff, Option.isSome_iff_exists]
  rfl

/-- A route that is found was compiled from the method with its signature. -/
theorem exists_compile_of_route? (h : Holds b router.routes methods)
    (hr : router.route? s = some r) :
    ∃ m ∈ methods, m.signature = s ∧ Route.compile m b = .ok r ∧ r.signature = s := by
  obtain ⟨m, hm, rfl⟩ := (exists_route?_iff h).mp ⟨r, hr⟩
  obtain ⟨r', hcompile, hget⟩ := h.route m hm
  have heq : r = r' := Option.some.inj (hr.symm.trans hget)
  subst heq
  exact ⟨m, hm, rfl, hcompile, (Route.isCompiled_of_compile hcompile).signature⟩

theorem size_eq_length (h : Holds b router.routes methods) : router.size = methods.length := by
  have hkeys := congrArg List.length h.keys
  rwa [Table.keys, List.length_map, List.length_map] at hkeys

/-- A call of a method without a route fails, and changes nothing. -/
theorem call_of_route?_eq_none {σ ρ : Type} (h : router.route? s = none) (backend : Backend σ)
    (decoder : Decoder ρ) (args : List Value) (session : Session σ) :
    router.call backend decoder s args session = (.error (.unknownRoute s), session) := by
  rw [Router.call, h]
  rfl

end Lookup

end Router

namespace Plan

variable {plan : Plan} {router : Router} {e : CompileError}

theorem build_eq_ok_iff : plan.build = .ok router ↔
    plan.methods.foldlM (Router.addMethod plan.bindings) .empty = .ok router.routes := by
  rw [build, bind_eq_ok_iff]
  constructor
  · rintro ⟨routes, hroutes, h⟩
    cases h
    exact hroutes
  · intro h
    exact ⟨router.routes, h, rfl⟩

theorem build_eq_error_iff : plan.build = .error e ↔
    plan.methods.foldlM (Router.addMethod plan.bindings) .empty = .error e := by
  rw [build, bind_eq_error_iff]
  constructor
  · rintro (h | ⟨routes, -, h⟩)
    · exact h
    · cases h
  · exact .inl

/-- If no method stops, there is a router with exactly one route for each method: it is found under
the signature of the method, and under no other, and it is what the method compiles to. Everything
else is an unknown route. Otherwise there is no router, and the first method that stops is the
reason: that it does not compile, or else that its signature is taken. -/
theorem build_serves_all (plan : Plan) :
    ((∀ i, ¬ Router.Stops plan.bindings plan.methods i) →
      ∃ router, plan.build = .ok router ∧ router.size = plan.methods.length ∧
        (∀ s, (∃ r, router.route? s = some r) ↔ ∃ m ∈ plan.methods, m.signature = s) ∧
        (∀ s r, router.route? s = some r →
          r.signature = s ∧
          ∃ j m, plan.methods[j]? = some m ∧ m.signature = s ∧
            Route.compile m plan.bindings = .ok r ∧
            ∀ (j' : Nat) (m' : Method), plan.methods[j']? = some m' → m'.signature = s → j' = j) ∧
        ∀ s, (∀ m ∈ plan.methods, m.signature ≠ s) →
          ∀ {σ ρ : Type} (backend : Backend σ) (decoder : Decoder ρ) (args : List Value)
            (session : Session σ),
            router.call backend decoder s args session = (.error (.unknownRoute s), session)) ∧
    ∀ i, Router.Stops plan.bindings plan.methods i →
      (∀ j < i, ¬ Router.Stops plan.bindings plan.methods j) →
      ∃ m, plan.methods[i]? = some m ∧
        (∀ e, Route.compile m plan.bindings = .error e → plan.build = .error e) ∧
        ∀ r, Route.compile m plan.bindings = .ok r →
          plan.build = .error (.duplicate m.signature) := by
  constructor
  · intro hstops
    obtain ⟨routes, hroutes⟩ := Router.exists_foldlM_addMethod_iff.mpr hstops
    have hheld : Router.Holds plan.bindings routes plan.methods :=
      Router.holds_of_foldlM Router.holds_empty hroutes
    refine ⟨⟨routes⟩, build_eq_ok_iff.mpr hroutes, Router.size_eq_length hheld,
      fun s => Router.exists_route?_iff hheld, fun s r hr => ?_, fun s hs => ?_⟩
    · obtain ⟨m, hm, rfl, hcompile, hsignature⟩ := Router.exists_compile_of_route? hheld hr
      obtain ⟨j, hj⟩ := List.mem_iff_getElem?.mp hm
      refine ⟨hsignature, j, m, hj, rfl, hcompile, fun j' m' hj' hm' => ?_⟩
      exact hheld.eq_of_signature_eq hj' hj hm'
    · have hnone : (Router.mk routes).route? s = none := by
        rw [Option.eq_none_iff_forall_not_mem]
        intro r hr
        obtain ⟨m, hm, hsignature⟩ := (Router.exists_route?_iff hheld).mp ⟨r, hr⟩
        exact hs m hm hsignature
      intro σ ρ
      exact Router.call_of_route?_eq_none hnone
  · intro i hi hfirst
    obtain ⟨before, m, after, hsplit, rfl, hroutes⟩ := Router.exists_split_of_stops hi hfirst
    have hm : plan.methods[before.length]? = some m := by
      rw [hsplit, List.getElem?_append_right (Nat.le_refl _), Nat.sub_self, List.getElem?_cons_zero]
    refine ⟨m, hm, fun e he => ?_, fun r hr => ?_⟩
    · refine build_eq_error_iff.mpr (Router.foldlM_addMethod_eq_error_iff.mpr ?_)
      exact ⟨before, m, after, hsplit, hroutes, .inl he⟩
    · rw [hsplit, Router.stops_length_iff] at hi
      rcases hi with ⟨e, he⟩ | htaken
      · rw [hr] at he
        cases he
      · refine build_eq_error_iff.mpr (Router.foldlM_addMethod_eq_error_iff.mpr ?_)
        exact ⟨before, m, after, hsplit, hroutes, .inr ⟨⟨r, hr⟩, htaken, rfl⟩⟩

namespace Sample

/-- Two methods of one name with different parameters. -/
def overloads : List Method :=
  [⟨"find", [.text "name"], none, "/\x7b0\x7d", .plain, .unit⟩,
    ⟨"find", [.text "name", .text "realm"], none, "/\x7b1\x7d/\x7b0\x7d", .plain, .unit⟩]

/-- A method with the signature of the first of them that does not compile. -/
def unbound : Method := ⟨"find", [.text "name"], none, "\x7bother()\x7d", .plain, .unit⟩

end Sample

/-- Overloads are served side by side. A method that neither compiles nor has a signature of its own
stops the build because it does not compile. -/
theorem build_serves_all_sample :
    (∃ router r, (Plan.mk .empty Sample.overloads).build = .ok router ∧ router.size = 2 ∧
      router.route? ⟨"find(String,String)"⟩ = some r ∧ r.signature = ⟨"find(String,String)"⟩ ∧
      ∀ session : Session Unit, router.call ⟨⟨fun _ state => (.ok (.ofCode 200), state)⟩, .json⟩
        Except.ok ⟨"find()"⟩ [] session = (.error (.unknownRoute ⟨"find()"⟩), session)) ∧
    Router.Stops .empty (Sample.overloads ++ [Sample.unbound]) 2 ∧
    (∀ j < 2, ¬ Router.Stops .empty (Sample.overloads ++ [Sample.unbound]) j) ∧
    (Plan.mk .empty (Sample.overloads ++ [Sample.unbound])).build =
      .error (.unknownAccessor ⟨"find(String)"⟩ "other") := by
  have hadded : Sample.overloads.foldlM (Router.addMethod .empty) .empty =
      .ok ((Sample.overloads.foldlM (Router.addMethod .empty) .empty).toOption.getD .empty) := rfl
  have hnone := Router.exists_foldlM_addMethod_iff.mp ⟨_, hadded⟩
  constructor
  · obtain ⟨router, hbuild, hsize, hroute, hfound, hcall⟩ :=
      (build_serves_all ⟨.empty, Sample.overloads⟩).1 hnone
    obtain ⟨r, hr⟩ := (hroute ⟨"find(String,String)"⟩).mpr (by decide)
    have hunknown : ∀ m ∈ Sample.overloads, m.signature ≠ ⟨"find()"⟩ := by decide
    exact ⟨router, r, hbuild, hsize, hr, (hfound _ r hr).1, fun session => hcall _ hunknown _ _ _ _⟩
  · have hstops : Router.Stops .empty (Sample.overloads ++ [Sample.unbound]) 2 :=
      ⟨_, rfl, .inl ⟨_, rfl⟩⟩
    have hfirst : ∀ j < 2, ¬ Router.Stops .empty (Sample.overloads ++ [Sample.unbound]) j :=
      fun j hj => (Router.stops_append_iff hj).not.mpr (hnone j)
    obtain ⟨m, hm, herror, -⟩ :=
      (build_serves_all ⟨.empty, Sample.overloads ++ [Sample.unbound]⟩).2 2 hstops hfirst
    cases hm
    exact ⟨hstops, hfirst, herror _ rfl⟩

end Plan

end MethodRoutes

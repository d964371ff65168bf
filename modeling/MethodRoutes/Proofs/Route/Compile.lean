import Mathlib.Data.List.Basic
import MethodRoutes.Proofs.Except
import MethodRoutes.Route.Basic

/-!
# Compiled routes

What a compilation guarantees about the route that it gives: each check of the compilation is
turned into the facts that it leaves behind, and these are collected once.

## Main definitions

* `Route.IsCompiled` — how a route relates to the method and the bindings it was compiled from

## Main results

* `Route.forM_checkParameter_eq_ok_iff`, `Route.get?_of_foldlM_bindAccessor` — what the checks of
  the references leave behind
* `Route.isCompiled_of_compile` — every route that a compilation gives is compiled in this sense
* `Route.exists_compile` — when a compilation gives a route
-/

namespace MethodRoutes

namespace Route

variable {m : Method} {b : Bindings} {r : Route}

/-! ## What the checks leave behind -/

theorem checkParameter_eq_ok_iff {index : Nat} :
    checkParameter m index = .ok () ↔ ∃ p, m.parameters[index]? = some p ∧ p.nullable = false := by
  rw [checkParameter]
  cases hp : m.parameters[index]? with
  | none => simp
  | some p => cases hn : p.nullable <;> simp [hn]

/-- All references are accepted when each has a declared parameter that is not nullable. -/
theorem forM_checkParameter_eq_ok_iff {positions : List Nat} :
    positions.forM (checkParameter m) = .ok () ↔
      ∀ index ∈ positions, ∃ p, m.parameters[index]? = some p ∧ p.nullable = false := by
  induction positions with
  | nil => simp [pure, Except.pure]
  | cons index positions ih =>
    have hstep : (index :: positions).forM (checkParameter m) =
        checkParameter m index >>= fun _ => positions.forM (checkParameter m) := rfl
    rw [hstep, bind_eq_ok_iff, List.forall_mem_cons, ← checkParameter_eq_ok_iff]
    exact ⟨fun ⟨_, hindex, hrest⟩ => ⟨hindex, ih.mp hrest⟩,
      fun ⟨hindex, hrest⟩ => ⟨(), hindex, ih.mpr hrest⟩⟩

theorem bindAccessor_eq_ok_iff {found table : Table String Accessor} {name : String} :
    bindAccessor m b found name = .ok table ↔
      ∃ accessor, b.accessors.get? name = some accessor ∧ table = found.insert name accessor := by
  rw [bindAccessor]
  cases b.accessors.get? name with
  | none => simp
  | some accessor => simp [eq_comm]

/-- When all names are bound, each of them is registered and has its registered accessor; other
names keep what was found for them before. -/
theorem get?_of_foldlM_bindAccessor {names : List String} {found table : Table String Accessor}
    (h : names.foldlM (bindAccessor m b) found = .ok table) (name : String) :
    (name ∈ names → (b.accessors.get? name).isSome) ∧
      table.get? name = if name ∈ names then b.accessors.get? name else found.get? name := by
  induction names generalizing found with
  | nil =>
    cases h
    simp
  | cons first names ih =>
    rw [List.foldlM_cons, bind_eq_ok_iff] at h
    obtain ⟨found', hfirst, hrest⟩ := h
    obtain ⟨accessor, haccessor, rfl⟩ := bindAccessor_eq_ok_iff.mp hfirst
    obtain ⟨hsome, hget⟩ := ih hrest
    -- A name that occurs again is bound again, to the same accessor.
    by_cases hname : name = first
    · subst hname
      exact ⟨fun _ => by simp [haccessor], by simp [hget, haccessor]⟩
    · have hfirst : ¬ first = name := fun heq => hname heq.symm
      exact ⟨fun hmem => hsome (by simpa [hname] using hmem), by simp [hget, hname, hfirst]⟩

/-- Names that are all registered can be bound. -/
theorem exists_foldlM_bindAccessor {names : List String} {found : Table String Accessor}
    (h : ∀ name ∈ names, (b.accessors.get? name).isSome) :
    ∃ table, names.foldlM (bindAccessor m b) found = .ok table := by
  induction names generalizing found with
  | nil => exact ⟨found, rfl⟩
  | cons first names ih =>
    obtain ⟨accessor, haccessor⟩ := Option.isSome_iff_exists.mp (h first List.mem_cons_self)
    have hrest : ∀ name ∈ names, (b.accessors.get? name).isSome :=
      fun name hname => h name (List.mem_cons_of_mem first hname)
    obtain ⟨table, htable⟩ := @ih (found.insert first accessor) hrest
    refine ⟨table, ?_⟩
    rw [List.foldlM_cons, bindAccessor_eq_ok_iff.mpr ⟨accessor, haccessor, rfl⟩]
    exact htable

theorem length_bodyPositions (parameters : List Parameter) :
    (bodyPositions parameters).length = parameters.countP (·.body) := by
  have hmap : (parameters.zipIdx.map Prod.fst).countP (·.body) = parameters.countP (·.body) := by
    rw [List.zipIdx_map_fst]
  rw [bodyPositions, List.length_map, ← List.countP_eq_length_filter, ← hmap, List.countP_map]
  rfl

theorem exists_findBody (h : m.parameters.countP (·.body) ≤ 1) :
    ∃ bodyIndex, findBody m = .ok bodyIndex := by
  rw [← length_bodyPositions] at h
  rcases hpositions : bodyPositions m.parameters with _ | ⟨first, _ | ⟨second, rest⟩⟩
  · exact ⟨none, by rw [findBody, hpositions]⟩
  · exact ⟨some first, by rw [findBody, hpositions]⟩
  · rw [hpositions] at h
    simp at h

theorem mem_bodyPositions_iff {parameters : List Parameter} {index : Nat} :
    index ∈ bodyPositions parameters ↔ ∃ p, parameters[index]? = some p ∧ p.body = true := by
  simp [bodyPositions, List.mem_zipIdx_iff_getElem?]

/-- The body that is found is a body parameter, and there is no other. -/
theorem bodyPositions_of_findBody {bodyIndex : Option Nat} (h : findBody m = .ok bodyIndex) :
    bodyPositions m.parameters = bodyIndex.toList := by
  rw [findBody] at h
  split at h
  · next hnone =>
    cases h
    exact hnone
  · next index hone =>
    cases h
    exact hone
  · cases h

/-! ## The routes that a compilation gives -/

/-- How a compiled route relates to the method that it was compiled from, and to the bindings. -/
structure IsCompiled (m : Method) (b : Bindings) (r : Route) : Prop where
  /-- The destination is the parsed one. -/
  destination : Destination.parse m.destination = .ok r.destination
  /-- Each reference has a declared parameter that is not nullable. -/
  parameter : ∀ index ∈ r.destination.parameters,
    ∃ p, m.parameters[index]? = some p ∧ p.nullable = false
  /-- Each accessor that is invoked is registered. -/
  registered : ∀ name ∈ r.destination.accessors, (b.accessors.get? name).isSome
  /-- The bound accessors are the registered ones that are invoked. -/
  accessors : ∀ name, r.accessors.get? name =
    if name ∈ r.destination.accessors then b.accessors.get? name else none
  /-- The body is the only body parameter, if there is one. -/
  body : bodyPositions m.parameters = r.bodyIndex.toList
  /-- The signature is that of the method. -/
  signature : r.signature = m.signature
  /-- The verb is the declared one or `GET`. -/
  verb : r.verb = m.verb.getD .get
  /-- The provider is the one that is attached to the method. -/
  provider : r.provider = b.providers.get? m.signature
  /-- The result type is the declared one. -/
  resultType : r.resultType = m.resultType
  /-- The return kind is the declared one. -/
  returnKind : r.returnKind = m.returnKind
  /-- The parameters are the declared ones. -/
  parameters : r.parameters = m.parameters

theorem isCompiled_of_compile (h : compile m b = .ok r) : IsCompiled m b r := by
  obtain ⟨destination, hdestination, h⟩ := bind_eq_ok_iff.mp h
  obtain ⟨_, hparameters, h⟩ := bind_eq_ok_iff.mp h
  obtain ⟨accessors, haccessors, h⟩ := bind_eq_ok_iff.mp h
  obtain ⟨bodyIndex, hbody, h⟩ := bind_eq_ok_iff.mp h
  cases h
  exact {
    destination := mapError_eq_ok_iff.mp hdestination
    parameter := forM_checkParameter_eq_ok_iff.mp hparameters
    registered := fun name => (get?_of_foldlM_bindAccessor haccessors name).1
    accessors := fun name => by simpa using (get?_of_foldlM_bindAccessor haccessors name).2
    body := bodyPositions_of_findBody hbody
    signature := rfl
    verb := rfl
    provider := rfl
    resultType := rfl
    returnKind := rfl
    parameters := rfl }

/-- A method compiles when its destination is accepted, each reference has a declared parameter
that is not nullable, each accessor is registered, and at most one parameter is the body. -/
theorem exists_compile {d : Destination} (hdestination : Destination.parse m.destination = .ok d)
    (hparameter : ∀ index ∈ d.parameters,
      ∃ p, m.parameters[index]? = some p ∧ p.nullable = false)
    (hregistered : ∀ name ∈ d.accessors, (b.accessors.get? name).isSome)
    (hbody : m.parameters.countP (·.body) ≤ 1) : ∃ r, compile m b = .ok r := by
  obtain ⟨accessors, haccessors⟩ :
      ∃ table, d.accessors.foldlM (bindAccessor m b) .empty = .ok table :=
    exists_foldlM_bindAccessor hregistered
  obtain ⟨bodyIndex, hbodyIndex⟩ := exists_findBody hbody
  exact ⟨_, bind_eq_ok_iff.mpr ⟨d, mapError_eq_ok_iff.mpr hdestination,
    bind_eq_ok_iff.mpr ⟨(), forM_checkParameter_eq_ok_iff.mpr hparameter,
      bind_eq_ok_iff.mpr ⟨accessors, haccessors,
        bind_eq_ok_iff.mpr ⟨bodyIndex, hbodyIndex, rfl⟩⟩⟩⟩⟩

end Route

end MethodRoutes

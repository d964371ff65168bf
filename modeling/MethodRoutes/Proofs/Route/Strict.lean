import MethodRoutes.Proofs.Destination.Scan
import MethodRoutes.Proofs.Route.Compile
import MethodRoutes.Route.Call

/-!
# Calls of compiled routes use only what is there

Checking the arguments of a call, resolving its destination and assembling its request look up
arguments by position and accessors by name. The definitions give a lookup that finds nothing a
meaning of its own: an argument is then `null`, a parameter has no name, an accessor answers the
empty text. This file has the same three computations without such meanings: as soon as a lookup
finds nothing, they have no result. For a compiled route both agree on every list of arguments, so
none of the stand-ins is ever used.

The invariant that carries this is established in two steps. Compilation gives a route whose
references have parameters and accessors; checking the arguments gives a call with an argument for
each parameter.

## Main definitions

* `Route.strictCall`, `Call.strictResolve`, `Call.strictUrl`, `Call.strictBody`,
  `Call.strictAssemble` — the computations that have no result when a lookup finds nothing
* `Route.WellFormed`, `Call.Fits` — what compilation and the check of the arguments establish

## Main results

* `Route.strictCall_eq`, `Call.strictUrl_eq`, `Call.strictAssemble_eq` — under these conditions
  the strict computations always have a result, which is the usual one
* `Route.resolves_of_compile` — so it is for every call of every compiled route
-/

namespace MethodRoutes

open Json (Value)

variable {α β : Type}

/-- A computation that always has a result, among those that may have none. -/
def always (action : StateM Invocations α) : StateT Invocations Option α := fun i => some (action i)

/-- Steps that always have a result have one together. -/
theorem mapM_eq_always {f : α → StateT Invocations Option β} {g : α → StateM Invocations β}
    {items : List α} (h : ∀ a ∈ items, f a = always (g a)) :
    items.mapM f = always (items.mapM g) := by
  induction items with
  | nil => rfl
  | cons a items ih =>
    rw [List.mapM_cons, List.mapM_cons, h a List.mem_cons_self,
      ih fun b hb => h b (List.mem_cons_of_mem a hb)]
    rfl

/-! ## The strict computations -/

namespace Route

/-- The first absent argument at some positions, as `Route.call` reports it. There is no result
if one of the positions before it has no argument, or if it has no parameter to be reported
with. -/
def strictAbsence (r : Route) (args : List Value) : List Nat → Option (Option RoutingError)
  | [] => some none
  | index :: rest =>
    match args[index]? with
    | none => none
    | some v =>
      if v.isNull then
        r.parameters[index]?.map fun p => some (.nullArgument r.signature index p.name)
      else strictAbsence r args rest

/-- Check the arguments of a call. -/
def strictCall (r : Route) (args : List Value) : Option (Except RoutingError Call) :=
  if args.length ≠ r.parameters.length then
    some (.error (.argumentCount r.signature r.parameters.length args.length))
  else
    (r.strictAbsence args r.destination.parameters).map fun
      | some e => .error e
      | none => .ok ⟨r, args⟩

end Route

namespace Call

/-- The argument that is sent as the body, if the route has a body parameter. -/
def strictBody (call : Call) : Option (Option Value) :=
  match call.route.bodyIndex with
  | none => some none
  | some index => call.args[index]?.map some

/-- The text that a segment stands for. -/
def strictResolve (call : Call) : Segment → StateT Invocations Option String
  | .literal text => pure text
  | .parameter index =>
    match call.args[index]? with
    | some v => pure (textOf v)
    | none => failure
  | .accessor name =>
    match call.route.accessors.get? name with
    | some accessor => always (accessor.invoke name)
    | none => failure

/-- The destination with all its segments resolved. -/
def strictUrl (call : Call) : StateT Invocations Option String := do
  return String.join (← call.route.destination.segments.mapM call.strictResolve)

/-- The request of a call. -/
def strictAssemble (call : Call) (codec : Codec) :
    StateT Invocations Option (Except RoutingError Request) := do
  let headers ← always call.headers
  let url ← call.strictUrl
  let body ← StateT.lift call.strictBody
  return attachBody codec ⟨call.route.verb, url, headers, none, call.route.resultType⟩ body

end Call

/-! ## What compilation establishes -/

/-- Each position that a route uses has a parameter, and each accessor that it invokes is
bound. -/
structure Route.WellFormed (r : Route) : Prop where
  /-- Each position of the destination has a parameter. -/
  parameter_lt : ∀ index ∈ r.destination.parameters, index < r.parameters.length
  /-- Each accessor of the destination is bound. -/
  bound : ∀ name ∈ r.destination.accessors, ∃ accessor, r.accessors.get? name = some accessor
  /-- The position of the body has a parameter. -/
  body_lt : ∀ index, r.bodyIndex = some index → index < r.parameters.length

theorem Route.IsCompiled.wellFormed {m : Method} {b : Bindings} {r : Route}
    (h : r.IsCompiled m b) : r.WellFormed where
  parameter_lt index hindex := by
    obtain ⟨p, hp, -⟩ := h.parameter index hindex
    rw [h.parameters]
    exact (List.getElem?_eq_some_iff.mp hp).1
  bound name hname := by
    rw [h.accessors, if_pos hname]
    exact Option.isSome_iff_exists.mp (h.registered name hname)
  body_lt index hindex := by
    have hmem : index ∈ bodyPositions m.parameters := by
      rw [h.body, hindex]
      exact List.mem_singleton_self index
    obtain ⟨p, hp, -⟩ := mem_bodyPositions_iff.mp hmem
    rw [h.parameters]
    exact (List.getElem?_eq_some_iff.mp hp).1

/-! ## What the check of the arguments establishes -/

/-- There is an argument for each parameter, and none of those that the destination refers to is
absent. -/
structure Call.Fits (call : Call) : Prop where
  /-- There is one argument for each parameter. -/
  length_args : call.args.length = call.route.parameters.length
  /-- The arguments that the destination refers to are not absent. -/
  not_null : ∀ index ∈ call.route.destination.parameters,
    (argument call.args index).isNull = false

theorem argument_of_lt {args : List Value} {index : Nat} (h : index < args.length) :
    args[index]? = some (argument args index) := by
  rw [argument, List.getElem?_eq_getElem h, Option.getD_some]

namespace Route

variable {r : Route} {args : List Value}

/-- A call is accepted when it fits, and keeps its route and its arguments. -/
theorem call_eq_ok_iff {call : Call} :
    r.call args = .ok call ↔ call = ⟨r, args⟩ ∧ call.Fits := by
  rw [Route.call]
  split
  · next hlength =>
    refine ⟨fun h => (by cases h), ?_⟩
    rintro ⟨rfl, hfits⟩
    exact absurd hfits.length_args hlength
  · next hlength =>
    split
    · next index hfind =>
      refine ⟨fun h => (by cases h), ?_⟩
      rintro ⟨rfl, hfits⟩
      have hnull := List.find?_some hfind
      rw [hfits.not_null index (List.mem_of_find?_eq_some hfind)] at hnull
      cases hnull
    · next hfind =>
      constructor
      · intro h
        cases h
        refine ⟨rfl, by simpa using hlength, fun index hindex => ?_⟩
        simpa using List.find?_eq_none.mp hfind index hindex
      · exact fun h => congrArg Except.ok h.1.symm

/-- Where all positions have arguments and parameters, the strict check reports the first absent
argument just as the usual one does. -/
theorem strictAbsence_eq {positions : List Nat}
    (h : ∀ index ∈ positions, index < args.length ∧ index < r.parameters.length) :
    r.strictAbsence args positions =
      some ((positions.find? fun index => (argument args index).isNull).map fun index =>
        .nullArgument r.signature index ((r.parameters[index]?.map (·.name)).getD "")) := by
  induction positions with
  | nil => rfl
  | cons index positions ih =>
    obtain ⟨hargs, hparameters⟩ := h index List.mem_cons_self
    rw [strictAbsence, argument_of_lt hargs, List.find?_cons]
    -- An absent argument is reported with its parameter, which is there too.
    cases hnull : (argument args index).isNull with
    | true => simp [hnull, List.getElem?_eq_getElem hparameters]
    | false => simpa [hnull] using ih fun i hi => h i (List.mem_cons_of_mem index hi)

/-- The check of the arguments of a well-formed route looks up nothing that is not there. -/
theorem strictCall_eq (h : r.WellFormed) (args : List Value) :
    r.strictCall args = some (r.call args) := by
  rw [strictCall, Route.call]
  split
  · rfl
  · next hlength =>
    -- The count is right, so the positions that have a parameter have an argument.
    have hlength : args.length = r.parameters.length := by simpa using hlength
    rw [strictAbsence_eq fun index hindex =>
      ⟨hlength ▸ h.parameter_lt index hindex, h.parameter_lt index hindex⟩]
    cases r.destination.parameters.find? fun index => (argument args index).isNull <;> rfl

end Route

/-! ## Calls that fit -/

namespace Call

variable {call : Call}

theorem strictResolve_eq (hroute : call.route.WellFormed) (hfits : call.Fits) {s : Segment}
    (hs : s ∈ call.route.destination.segments) :
    call.strictResolve s = always (call.resolve s) := by
  cases s with
  | literal text => rfl
  | parameter index =>
    have hlt : index < call.args.length := by
      rw [hfits.length_args]
      exact hroute.parameter_lt index (Destination.mem_parameters_iff.mpr hs)
    rw [strictResolve, argument_of_lt hlt]
    rfl
  | accessor name =>
    obtain ⟨accessor, haccessor⟩ := hroute.bound name (Destination.mem_accessors_iff.mpr hs)
    rw [strictResolve, resolve, haccessor]

theorem strictUrl_eq (hroute : call.route.WellFormed) (hfits : call.Fits) :
    call.strictUrl = always call.url := by
  rw [strictUrl, mapM_eq_always fun s hs => strictResolve_eq hroute hfits hs]
  rfl

theorem strictBody_eq (hroute : call.route.WellFormed) (hfits : call.Fits) :
    call.strictBody = some call.body? := by
  rw [strictBody, body?]
  cases hbody : call.route.bodyIndex with
  | none => rfl
  | some index =>
    have hlt : index < call.args.length := by
      rw [hfits.length_args]
      exact hroute.body_lt index hbody
    simp only [argument_of_lt hlt, Option.map_some]

theorem strictAssemble_eq (hroute : call.route.WellFormed) (hfits : call.Fits) (codec : Codec) :
    call.strictAssemble codec = always (call.assemble codec) := by
  rw [strictAssemble, strictUrl_eq hroute hfits, strictBody_eq hroute hfits]
  rfl

end Call

/-! ## Compilation is sound for every later call -/

/-- A call of a compiled route never looks up anything that is not there: neither the check of
the arguments nor, for a call that passes it, the resolution of the destination and the assembly
of the request. -/
theorem Route.resolves_of_compile {m : Method} {b : Bindings} {r : Route}
    (h : Route.compile m b = .ok r) (args : List Value) :
    r.strictCall args = some (r.call args) ∧
      ∀ call, r.call args = .ok call →
        call.route = r ∧ call.args = args ∧
        (∀ index, .parameter index ∈ r.destination.segments →
          ∃ v, call.args[index]? = some v ∧ v.isNull = false) ∧
        (∀ name, .accessor name ∈ r.destination.segments →
          ∃ accessor, r.accessors.get? name = some accessor) ∧
        (∀ index, r.bodyIndex = some index → index < call.args.length) ∧
        call.strictUrl = always call.url ∧
        ∀ codec, call.strictAssemble codec = always (call.assemble codec) := by
  have hroute : r.WellFormed := (isCompiled_of_compile h).wellFormed
  refine ⟨strictCall_eq hroute args, fun call hcall => ?_⟩
  obtain ⟨rfl, hfits⟩ := call_eq_ok_iff.mp hcall
  refine ⟨rfl, rfl, fun index hindex => ?_, fun name hname => ?_, fun index hindex => ?_,
    Call.strictUrl_eq hroute hfits, Call.strictAssemble_eq hroute hfits⟩
  · have hmem := Destination.mem_parameters_iff.mpr hindex
    exact ⟨_, argument_of_lt (hfits.length_args ▸ hroute.parameter_lt index hmem),
      hfits.not_null index hmem⟩
  · exact hroute.bound name (Destination.mem_accessors_iff.mpr hname)
  · exact hfits.length_args ▸ hroute.body_lt index hindex

/-- A method with a label, an accessor that is invoked twice and a body compiles, and its call
resolves. -/
theorem Route.resolves_of_compile_sample :
    ∃ r call,
      Route.compile
        ⟨"add", [.text "id", (Parameter.ofType "tags" "Tags").asBody], some .post,
          "\x7broot()\x7d/\x7b0 id\x7d\x7broot()\x7d", .plain, .unit⟩
        (Bindings.empty.withAccessor "root" (.constant "/api")) = .ok r ∧
      r.call [.string "a", .array []] = .ok call ∧
      r.strictCall [.string "a", .array []] = some (.ok call) ∧
      call.strictUrl = always call.url ∧
      (call.strictUrl .none).map Prod.fst = some "/api/a/api" := by
  have h : Route.compile
      ⟨"add", [.text "id", (Parameter.ofType "tags" "Tags").asBody], some .post,
        "\x7broot()\x7d/\x7b0 id\x7d\x7broot()\x7d", .plain, .unit⟩
      (Bindings.empty.withAccessor "root" (.constant "/api")) =
      .ok ⟨⟨"add(String,Tags)"⟩,
        ⟨[.accessor "root", .literal "/", .parameter 0, .accessor "root"]⟩, .post, some 1, none,
        .unit, .plain, [.text "id", (Parameter.ofType "tags" "Tags").asBody],
        Table.empty.insert "root" (.constant "/api")⟩ := rfl
  obtain ⟨hcall, hresolves⟩ := resolves_of_compile h [.string "a", .array []]
  refine ⟨_, ⟨_, _⟩, h, rfl, hcall, (hresolves _ rfl).2.2.2.2.2.1, rfl⟩

end MethodRoutes

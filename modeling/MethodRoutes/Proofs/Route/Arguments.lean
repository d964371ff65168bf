import MethodRoutes.Proofs.Route.Assembly

/-!
# Which arguments a call reads

A route takes an argument for each of its parameters, but its destination need not refer to all of
them, and at most one of them is the body. The other arguments are counted and then never looked at:
they decide neither whether a call is accepted nor what is sent. So two lists of arguments that
agree where the destination refers to, and at the body, cannot be told apart by a server.

The check, the destination and the assembly are treated one after the other; each reads no more
than the entries at its own positions.

## Main definitions

* `AgreeAt` — two lists of arguments have the same entries at some positions
* `Route.Refuses` — why arguments are turned down

## Main results

* `Route.call_eq_error_iff`, `Call.fits_iff` — when arguments are turned down, and when accepted
* `Route.Refuses.congr`, `Call.Fits.congr`, `Call.url_congr`, `Call.assemble_congr` — what each step
  reads
* `Route.call_reads_referenced` — the whole way from the arguments to the request
-/

namespace MethodRoutes

open Json (Value)

/-- The lists of arguments have the same entries at the positions. -/
def AgreeAt (positions : List Nat) (args args' : List Value) : Prop :=
  ∀ index ∈ positions, args[index]? = args'[index]?

/-- Why a route turns arguments down. Their number comes first; of the absent arguments that the
destination refers to, the leftmost one is to blame. -/
inductive Route.Refuses (r : Route) (args : List Value) : RoutingError → Prop
  /-- There are too many or too few arguments. -/
  | count (hlength : args.length ≠ r.parameters.length) :
      Refuses r args (.argumentCount r.signature r.parameters.length args.length)
  /-- This reference is the first one whose argument is absent. -/
  | absent {before after : List Nat} {index : Nat} {p : Parameter}
      (hlength : args.length = r.parameters.length)
      (hsplit : r.destination.parameters = before ++ index :: after)
      (hbefore : ∀ i ∈ before, args[i]? ≠ some .null)
      (hnull : args[index]? = some .null)
      (hparameter : r.parameters[index]? = some p) :
      Refuses r args (.nullArgument r.signature index p.name)

section Arguments

variable {r : Route} {args args' : List Value} {index : Nat} {positions : List Nat}
  {e : RoutingError} {s : Segment} {before : List Segment} {i : Invocations}

/-! ## When arguments are turned down -/

theorem isNull_argument_iff (h : index < args.length) :
    (argument args index).isNull = true ↔ args[index]? = some .null := by
  rw [Value.isNull_iff, argument_of_lt h, Option.some.injEq]

/-- The first absent argument at some positions. -/
theorem find?_isNull_argument_eq_some_iff (h : ∀ i ∈ positions, i < args.length) :
    (positions.find? fun i => (argument args i).isNull) = some index ↔
      ∃ before after, positions = before ++ index :: after ∧
        (∀ i ∈ before, args[i]? ≠ some .null) ∧ args[index]? = some .null := by
  rw [List.find?_eq_some_iff_append]
  constructor
  · rintro ⟨hnull, before, after, rfl, hbefore⟩
    refine ⟨before, after, rfl, fun i hi => ?_, (isNull_argument_iff (h _ (by simp))).mp hnull⟩
    have hpresent : ¬ (argument args i).isNull = true := by simpa using hbefore i hi
    exact mt (isNull_argument_iff (h _ (by simp [hi]))).mpr hpresent
  · rintro ⟨before, after, rfl, hbefore, hnull⟩
    refine ⟨(isNull_argument_iff (h _ (by simp))).mpr hnull, before, after, rfl, fun i hi => ?_⟩
    have hpresent := mt (isNull_argument_iff (h _ (by simp [hi]))).mp (hbefore i hi)
    simpa using hpresent

/-- The check of the arguments fails for their number, or at the first absent one. -/
theorem Route.call_eq_error_iff_find? :
    r.call args = .error e ↔
      (args.length ≠ r.parameters.length ∧
        e = .argumentCount r.signature r.parameters.length args.length) ∨
      (args.length = r.parameters.length ∧ ∃ index,
        (r.destination.parameters.find? fun i => (argument args i).isNull) = some index ∧
        e = .nullArgument r.signature index ((r.parameters[index]?.map (·.name)).getD "")) := by
  rw [Route.call]
  by_cases hlength : args.length = r.parameters.length
  · rw [if_neg (not_not_intro hlength)]
    cases r.destination.parameters.find? fun i => (argument args i).isNull with
    | none => simp [hlength]
    | some index => simp [hlength, eq_comm]
  · rw [if_pos hlength]
    simp [hlength, eq_comm]

/-- Arguments are turned down for the first reason that there is, and for no other. -/
theorem Route.call_eq_error_iff (hroute : r.WellFormed) :
    r.call args = .error e ↔ r.Refuses args e := by
  rw [call_eq_error_iff_find?]
  constructor
  · rintro (⟨hlength, rfl⟩ | ⟨hlength, index, hfind, rfl⟩)
    · exact .count hlength
    · have hmem : index ∈ r.destination.parameters := List.mem_of_find?_eq_some hfind
      obtain ⟨p, hp⟩ : ∃ p, r.parameters[index]? = some p :=
        ⟨_, List.getElem?_eq_getElem (hroute.parameter_lt index hmem)⟩
      obtain ⟨before, after, hsplit, hbefore, hnull⟩ := (find?_isNull_argument_eq_some_iff
        fun i hi => hlength ▸ hroute.parameter_lt i hi).mp hfind
      rw [hp]
      exact .absent hlength hsplit hbefore hnull hp
  · intro h
    cases h with
    | count hlength => exact .inl ⟨hlength, rfl⟩
    | absent hlength hsplit hbefore hnull hp =>
      refine .inr ⟨hlength, _, (find?_isNull_argument_eq_some_iff
        fun i hi => hlength ▸ hroute.parameter_lt i hi).mpr ⟨_, _, hsplit, hbefore, hnull⟩, ?_⟩
      rw [hp]
      rfl

/-- Arguments are accepted if their number is right and none that the destination refers to is
absent. -/
theorem Call.fits_iff (hroute : r.WellFormed) :
    (Call.mk r args).Fits ↔ args.length = r.parameters.length ∧
      ∀ index ∈ r.destination.parameters, args[index]? ≠ some .null := by
  constructor
  · intro h
    refine ⟨h.length_args, fun index hindex => ?_⟩
    have hlt : index < args.length := h.length_args ▸ hroute.parameter_lt index hindex
    refine mt (isNull_argument_iff hlt).mpr ?_
    rw [h.not_null index hindex]
    exact Bool.false_ne_true
  · rintro ⟨hlength, hpresent⟩
    refine ⟨hlength, fun index hindex => ?_⟩
    have hlt : index < args.length := hlength ▸ hroute.parameter_lt index hindex
    rw [← Bool.not_eq_true]
    exact mt (isNull_argument_iff hlt).mp (hpresent index hindex)

/-! ## What each step reads -/

/-- The check reads the number of the arguments and those that the destination refers to. -/
theorem Route.Refuses.congr (hlength : args.length = args'.length)
    (hagree : AgreeAt r.destination.parameters args args') (h : r.Refuses args e) :
    r.Refuses args' e := by
  cases h with
  | count hcount =>
    rw [hlength] at hcount ⊢
    exact .count hcount
  | absent hcount hsplit hbefore hnull hp =>
    refine .absent (hlength ▸ hcount) hsplit (fun i hi => ?_) ?_ hp
    · rw [← hagree i (hsplit ▸ List.mem_append_left _ hi)]
      exact hbefore i hi
    · rw [← hagree _ (hsplit ▸ List.mem_append_right _ List.mem_cons_self)]
      exact hnull

theorem Call.Fits.congr (hroute : r.WellFormed) (hlength : args.length = args'.length)
    (hagree : AgreeAt r.destination.parameters args args') (h : (Call.mk r args).Fits) :
    (Call.mk r args').Fits := by
  obtain ⟨hcount, hpresent⟩ := (fits_iff hroute).mp h
  refine (fits_iff hroute).mpr ⟨hlength ▸ hcount, fun index hindex => ?_⟩
  rw [← hagree index hindex]
  exact hpresent index hindex

/-- A segment reads at most the argument at its own position. -/
theorem Call.textAfter_congr (h : ∀ index, s = .parameter index → args[index]? = args'[index]?) :
    (Call.mk r args).textAfter i before s = (Call.mk r args').textAfter i before s := by
  cases s with
  | literal text => rfl
  | parameter index => simp only [textAfter, argument, h index rfl]
  | accessor name => rfl

theorem Call.texts_congr (hagree : AgreeAt r.destination.parameters args args') :
    (Call.mk r args).texts i = (Call.mk r args').texts i := by
  refine List.mapIdx_eq_mapIdx_iff.mpr fun k hk => textAfter_congr fun index hindex => ?_
  exact hagree index (Destination.mem_parameters_iff.mpr (hindex ▸ List.getElem_mem hk))

/-- The destination reads the arguments that it refers to. -/
theorem Call.url_congr (hroute : r.WellFormed)
    (hagree : AgreeAt r.destination.parameters args args') :
    (Call.mk r args).url i = (Call.mk r args').url i := by
  rw [url_run hroute, url_run hroute, texts_congr hagree]

theorem Call.body?_congr (hagree : AgreeAt r.bodyIndex.toList args args') :
    (Call.mk r args).body? = (Call.mk r args').body? := by
  rw [body?, body?]
  cases hbody : r.bodyIndex with
  | none => rfl
  | some index =>
    have hentry : args[index]? = args'[index]? := hagree index (by simp [hbody])
    simp only [Option.map_some, argument, hentry]

/-- The assembly reads the arguments that the destination refers to, and the body. -/
theorem Call.assemble_congr (hroute : r.WellFormed)
    (hagree : AgreeAt r.destination.parameters args args')
    (hbody : AgreeAt r.bodyIndex.toList args args') (codec : Codec) :
    (Call.mk r args).assemble codec i = (Call.mk r args').assemble codec i := by
  rw [assemble_run hroute, assemble_run hroute, texts_congr hagree, body?_congr hbody]

end Arguments

/-! ## From the arguments to the request -/

namespace Route

/-- Only the arguments that the destination refers to, and the body, reach a server. A compiled
route turns arguments down for their number, or else for the first reference whose argument is
absent, and accepts all others. If two lists of the same length agree where the destination refers
to, both are turned down with the same error, or both are accepted and give the same destination
after any invocations; if they agree at the body as well, they give the same request or the same
error. -/
theorem call_reads_referenced {m : Method} {b : Bindings} {r : Route} (h : compile m b = .ok r)
    {args args' : List Value} (hlength : args.length = args'.length) :
    (∀ e, r.call args = .error e ↔ r.Refuses args e) ∧
    (∀ call, r.call args = .ok call ↔ call = ⟨r, args⟩ ∧ args.length = r.parameters.length ∧
      ∀ index ∈ r.destination.parameters, args[index]? ≠ some .null) ∧
    (AgreeAt r.destination.parameters args args' →
      (∃ e, r.call args = .error e ∧ r.call args' = .error e) ∨
      ∃ call call', r.call args = .ok call ∧ r.call args' = .ok call' ∧
        (∀ i, call.url i = call'.url i) ∧
        (AgreeAt r.bodyIndex.toList args args' →
          ∀ codec i, call.assemble codec i = call'.assemble codec i)) := by
  have hroute : r.WellFormed := (isCompiled_of_compile h).wellFormed
  refine ⟨fun e => call_eq_error_iff hroute, fun call => ?_, fun hagree => ?_⟩
  · rw [call_eq_ok_iff]
    refine and_congr_right fun hcall => ?_
    rw [hcall, Call.fits_iff hroute]
  · cases hcall : r.call args with
    | error e =>
      have hrefuses := ((call_eq_error_iff hroute).mp hcall).congr hlength hagree
      exact .inl ⟨e, rfl, (call_eq_error_iff hroute).mpr hrefuses⟩
    | ok call =>
      obtain ⟨rfl, hfits⟩ := call_eq_ok_iff.mp hcall
      exact .inr ⟨_, ⟨r, args'⟩, rfl, call_eq_ok_iff.mpr ⟨rfl, hfits.congr hroute hlength hagree⟩,
        fun i => Call.url_congr hroute hagree,
        fun hbody codec i => Call.assemble_congr hroute hagree hbody codec⟩

namespace Sample

/-- A method that refers to its second argument twice, sends the third one as the body, and leaves
the first one alone. -/
def replace : Method :=
  ⟨"replace", [.text "note", .text "id", (Parameter.ofType "item" "Item").asBody], some .put,
    "\x7b1 id\x7d/items/\x7b1\x7d", .plain, .unit⟩

/-- The compiled method. -/
def replaceRoute : Route :=
  ⟨⟨"replace(String,String,Item)"⟩, ⟨[.parameter 1, .literal "/items/", .parameter 1]⟩, .put,
    some 2, none, .unit, .plain, replace.parameters, .empty⟩

end Sample

/-- The note has no part in the request, not even if it is absent. Without an identifier the call
is turned down. -/
theorem call_reads_referenced_sample :
    compile Sample.replace .empty = .ok Sample.replaceRoute ∧
      (∃ call call', Sample.replaceRoute.call [.string "a", .string "7", .int 1] = .ok call ∧
        Sample.replaceRoute.call [.null, .string "7", .int 1] = .ok call' ∧
        ∀ codec i, call.assemble codec i = call'.assemble codec i) ∧
      Sample.replaceRoute.call [.string "a", .null, .null] =
        .error (.nullArgument Sample.replaceRoute.signature 1 "id") := by
  have h : compile Sample.replace .empty = .ok Sample.replaceRoute := rfl
  have hlength : [Value.string "a", .string "7", .int 1].length =
      [Value.null, .string "7", .int 1].length := rfl
  have hlength' : [Value.string "a", .null, .null].length = [Value.null, .null, .null].length := rfl
  have hsplit : Sample.replaceRoute.destination.parameters = [] ++ 1 :: [1] := rfl
  obtain ⟨-, -, hsame⟩ := call_reads_referenced h hlength
  obtain ⟨hrefuses, -⟩ := call_reads_referenced h hlength'
  refine ⟨h, ?_, (hrefuses _).mpr ?_⟩
  · rcases hsame (by simp [AgreeAt, Destination.parameters, Sample.replaceRoute,
        Segment.parameter?]) with ⟨e, he, -⟩ | ⟨call, call', hcall, hcall', -, hrequest⟩
    · cases he
    · exact ⟨call, call', hcall, hcall', hrequest (by simp [AgreeAt, Sample.replaceRoute])⟩
  · exact .absent rfl hsplit (by simp) rfl rfl

end Route

end MethodRoutes

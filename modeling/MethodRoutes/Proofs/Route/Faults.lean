import MethodRoutes.Proofs.Destination.Scan
import MethodRoutes.Proofs.Route.Compile

/-!
# Which methods compile, and what is wrong with the others

A method compiles exactly when nothing is wrong with it. Several things can be wrong at once, but
one fault is reported: the checks come in a fixed order, and the checks of references go through
the destination from left to right. Both sides are said here without the compilation, as conditions
on the method and the bindings.

## Main definitions

* `Method.Supplies` — a reference to a position has a parameter that is always there
* `Method.IsSound` — nothing is wrong with a method
* `Method.FirstFault` — which of the faults of a method comes first

## Main results

* `Route.checkParameter_eq_error_iff`, `Route.forM_checkParameter_eq_error_iff`,
  `Route.foldlM_bindAccessor_eq_error_iff`, `Route.findBody_eq_error_iff` — when each check fails
* `Route.exists_compile_iff`, `Route.compile_eq_error_iff` — when a compilation succeeds, and how it
  fails
* `Route.compile_reports_firstFault` — both, and what the compiled route holds
-/

namespace MethodRoutes

namespace Method

/-- A reference to the position can be filled in for every call: there is a parameter, and its
argument may not be absent. -/
def Supplies (m : Method) (index : Nat) : Prop :=
  ∃ p, m.parameters[index]? = some p ∧ p.nullable = false

/-- Nothing is wrong with a method, whose destination reads as `d`. -/
structure IsSound (m : Method) (b : Bindings) (d : Destination) : Prop where
  /-- The destination can be read. -/
  parsed : Destination.parse m.destination = .ok d
  /-- Each reference to a parameter can be filled in. -/
  supplied : ∀ index ∈ d.parameters, m.Supplies index
  /-- Each accessor that is invoked is registered. -/
  registered : ∀ name ∈ d.accessors, (b.accessors.get? name).isSome
  /-- At most one parameter is the body. -/
  oneBody : m.parameters.countP (·.body) ≤ 1

/-- What is reported of the faults of a method. A fault of the destination comes before those of
the references to parameters, these come before those of the accessors, and a second body comes
last. Among the references the leftmost one decides. -/
inductive FirstFault (m : Method) (b : Bindings) : CompileError → Prop
  /-- Everything before this entry of the destination is a segment. -/
  | destination {before : List Segment} {cause : SegmentError}
      {after : List (Except SegmentError Segment)}
      (hscan : Destination.scan m.destination = before.map .ok ++ .error cause :: after) :
      FirstFault m b (.invalidDestination m.signature cause)
  /-- This reference is the first one to blame, for want of a parameter. -/
  | outOfRange {d : Destination} {before after : List Nat} {index : Nat}
      (hparse : Destination.parse m.destination = .ok d)
      (hsplit : d.parameters = before ++ index :: after)
      (hbefore : ∀ i ∈ before, m.Supplies i)
      (hrange : m.parameters.length ≤ index) :
      FirstFault m b (.parameterOutOfRange m.signature index m.parameters.length)
  /-- This reference is the first one to blame, because its argument may be absent. -/
  | nullable {d : Destination} {before after : List Nat} {index : Nat} {p : Parameter}
      (hparse : Destination.parse m.destination = .ok d)
      (hsplit : d.parameters = before ++ index :: after)
      (hbefore : ∀ i ∈ before, m.Supplies i)
      (hparameter : m.parameters[index]? = some p) (hnullable : p.nullable = true) :
      FirstFault m b (.nullableParameter m.signature index)
  /-- All references to parameters can be filled in, and this is the first name that is not
  registered. -/
  | unknownAccessor {d : Destination} {before after : List String} {name : String}
      (hparse : Destination.parse m.destination = .ok d)
      (hsupplied : ∀ index ∈ d.parameters, m.Supplies index)
      (hsplit : d.accessors = before ++ name :: after)
      (hbefore : ∀ n ∈ before, (b.accessors.get? n).isSome)
      (hname : b.accessors.get? name = none) :
      FirstFault m b (.unknownAccessor m.signature name)
  /-- Nothing is wrong with the destination, but there is more than one body. -/
  | severalBodies {d : Destination} (hparse : Destination.parse m.destination = .ok d)
      (hsupplied : ∀ index ∈ d.parameters, m.Supplies index)
      (hregistered : ∀ name ∈ d.accessors, (b.accessors.get? name).isSome)
      (hbodies : 1 < m.parameters.countP (·.body)) :
      FirstFault m b (.severalBodies m.signature)

end Method

namespace Route

variable {m : Method} {b : Bindings} {r : Route} {e : CompileError}

/-! ## When each check fails -/

theorem checkParameter_eq_error_iff {index : Nat} :
    checkParameter m index = .error e ↔
      (m.parameters.length ≤ index ∧
        e = .parameterOutOfRange m.signature index m.parameters.length) ∨
      ∃ p, m.parameters[index]? = some p ∧ p.nullable = true ∧
        e = .nullableParameter m.signature index := by
  rw [checkParameter, ← List.getElem?_eq_none_iff]
  cases hp : m.parameters[index]? with
  | none => simpa using eq_comm
  | some p =>
    cases hnullable : p.nullable with
    | false => simp [hnullable]
    | true => simpa [hnullable] using eq_comm

/-- The references to parameters are turned down for the leftmost one that cannot be filled in. -/
theorem forM_checkParameter_eq_error_iff {positions : List Nat} :
    positions.forM (checkParameter m) = .error e ↔
      ∃ before index after, positions = before ++ index :: after ∧
        (∀ i ∈ before, m.Supplies i) ∧ checkParameter m index = .error e := by
  rw [forM_eq_error_iff]
  simp only [forM_checkParameter_eq_ok_iff, Method.Supplies]

theorem bindAccessor_eq_error_iff {found : Table String Accessor} {name : String} :
    bindAccessor m b found name = .error e ↔
      b.accessors.get? name = none ∧ e = .unknownAccessor m.signature name := by
  rw [bindAccessor]
  cases b.accessors.get? name with
  | none => simp [eq_comm]
  | some accessor => simp

/-- The accessors are turned down for the leftmost one that is not registered. -/
theorem foldlM_bindAccessor_eq_error_iff {names : List String} {found : Table String Accessor} :
    names.foldlM (bindAccessor m b) found = .error e ↔
      ∃ before name after, names = before ++ name :: after ∧
        (∀ n ∈ before, (b.accessors.get? n).isSome) ∧ b.accessors.get? name = none ∧
        e = .unknownAccessor m.signature name := by
  rw [foldlM_eq_error_iff]
  constructor
  · rintro ⟨before, name, after, table, hsplit, hbefore, hname⟩
    exact ⟨before, name, after, hsplit, fun n hn => (get?_of_foldlM_bindAccessor hbefore n).1 hn,
      bindAccessor_eq_error_iff.mp hname⟩
  · rintro ⟨before, name, after, hsplit, hbefore, hname⟩
    obtain ⟨table, htable⟩ : ∃ table, before.foldlM (bindAccessor m b) found = .ok table :=
      exists_foldlM_bindAccessor hbefore
    exact ⟨before, name, after, table, hsplit, htable, bindAccessor_eq_error_iff.mpr hname⟩

theorem findBody_eq_error_iff :
    findBody m = .error e ↔ 1 < m.parameters.countP (·.body) ∧ e = .severalBodies m.signature := by
  rw [← length_bodyPositions, findBody]
  rcases bodyPositions m.parameters with _ | ⟨first, _ | ⟨second, rest⟩⟩
  · simp
  · simp
  · simp [eq_comm]

/-! ## When a compilation succeeds, and how it fails -/

theorem IsCompiled.isSound (h : r.IsCompiled m b) : m.IsSound b r.destination where
  parsed := h.destination
  supplied := h.parameter
  registered := h.registered
  oneBody := by
    rw [← length_bodyPositions, h.body]
    cases r.bodyIndex <;> simp

/-- Exactly the methods compile that nothing is wrong with. -/
theorem exists_compile_iff : (∃ r, compile m b = .ok r) ↔ ∃ d, m.IsSound b d := by
  constructor
  · rintro ⟨r, hr⟩
    exact ⟨r.destination, (isCompiled_of_compile hr).isSound⟩
  · rintro ⟨d, hd⟩
    exact exists_compile hd.parsed hd.supplied hd.registered hd.oneBody

/-- The position of the body is that of the body parameter; there is none without one. -/
theorem IsCompiled.bodyIndex_eq_some_iff (h : r.IsCompiled m b) {index : Nat} :
    r.bodyIndex = some index ↔ ∃ p, m.parameters[index]? = some p ∧ p.body = true := by
  rw [← mem_bodyPositions_iff, h.body, Option.mem_toList]

/-- A compilation fails in the first of its steps that fails. -/
theorem compile_eq_error_iff_of_steps :
    compile m b = .error e ↔
      (∃ cause, Destination.parse m.destination = .error cause ∧
        .invalidDestination m.signature cause = e) ∨
      ∃ d, Destination.parse m.destination = .ok d ∧
        (d.parameters.forM (checkParameter m) = .error e ∨
          (d.parameters.forM (checkParameter m) = .ok () ∧
            (d.accessors.foldlM (bindAccessor m b) .empty = .error e ∨
              (∃ table, d.accessors.foldlM (bindAccessor m b) .empty = .ok table) ∧
                findBody m = .error e))) := by
  rw [compile, bind_eq_error_iff, mapError_eq_error_iff]
  refine or_congr_right (exists_congr fun d => and_congr mapError_eq_ok_iff ?_)
  rw [bind_eq_error_iff]
  refine or_congr_right ?_
  constructor
  · rintro ⟨_, hcheck, h⟩
    refine ⟨hcheck, (bind_eq_error_iff.mp h).imp_right ?_⟩
    rintro ⟨table, htable, hrest⟩
    -- Nothing can fail once the body has been found.
    rcases bind_eq_error_iff.mp hrest with hbody | ⟨_, -, hlast⟩
    · exact ⟨⟨table, htable⟩, hbody⟩
    · cases hlast
  · rintro ⟨hcheck, hbind | ⟨⟨table, htable⟩, hbody⟩⟩
    · exact ⟨(), hcheck, bind_eq_error_iff.mpr (.inl hbind)⟩
    · refine ⟨(), hcheck, bind_eq_error_iff.mpr (.inr ⟨table, htable, ?_⟩)⟩
      exact bind_eq_error_iff.mpr (.inl hbody)

/-- A compilation that fails reports the first fault, and only that. -/
theorem compile_eq_error_iff : compile m b = .error e ↔ m.FirstFault b e := by
  rw [compile_eq_error_iff_of_steps]
  constructor
  · rintro (⟨cause, hcause, rfl⟩ | ⟨d, hparse, hcheck | ⟨hcheck, hbind | ⟨⟨table, hbind⟩, hbody⟩⟩⟩)
    · obtain ⟨before, after, hscan⟩ := Destination.parse_eq_error_iff.mp hcause
      exact .destination hscan
    · obtain ⟨before, index, after, hsplit, hbefore, hindex⟩ :=
        forM_checkParameter_eq_error_iff.mp hcheck
      rcases checkParameter_eq_error_iff.mp hindex with ⟨hrange, rfl⟩ | ⟨p, hp, hnullable, rfl⟩
      · exact .outOfRange hparse hsplit hbefore hrange
      · exact .nullable hparse hsplit hbefore hp hnullable
    · have hsupplied := forM_checkParameter_eq_ok_iff.mp hcheck
      obtain ⟨before, name, after, hsplit, hbefore, hname, rfl⟩ :=
        foldlM_bindAccessor_eq_error_iff.mp hbind
      exact .unknownAccessor hparse hsupplied hsplit hbefore hname
    · have hsupplied := forM_checkParameter_eq_ok_iff.mp hcheck
      have hregistered (name : String) := (get?_of_foldlM_bindAccessor hbind name).1
      obtain ⟨hbodies, rfl⟩ := findBody_eq_error_iff.mp hbody
      exact .severalBodies hparse hsupplied hregistered hbodies
  · intro h
    cases h with
    | destination hscan =>
      exact .inl ⟨_, Destination.parse_eq_error_iff.mpr ⟨_, _, hscan⟩, rfl⟩
    | outOfRange hparse hsplit hbefore hrange =>
      have hindex := checkParameter_eq_error_iff.mpr (.inl ⟨hrange, rfl⟩)
      have hcheck := forM_checkParameter_eq_error_iff.mpr ⟨_, _, _, hsplit, hbefore, hindex⟩
      exact .inr ⟨_, hparse, .inl hcheck⟩
    | nullable hparse hsplit hbefore hp hnullable =>
      have hindex := checkParameter_eq_error_iff.mpr (.inr ⟨_, hp, hnullable, rfl⟩)
      have hcheck := forM_checkParameter_eq_error_iff.mpr ⟨_, _, _, hsplit, hbefore, hindex⟩
      exact .inr ⟨_, hparse, .inl hcheck⟩
    | unknownAccessor hparse hsupplied hsplit hbefore hname =>
      have hcheck := forM_checkParameter_eq_ok_iff.mpr hsupplied
      refine .inr ⟨_, hparse, .inr ⟨hcheck, .inl ?_⟩⟩
      exact foldlM_bindAccessor_eq_error_iff.mpr ⟨_, _, _, hsplit, hbefore, hname, rfl⟩
    | severalBodies hparse hsupplied hregistered hbodies =>
      have hcheck := forM_checkParameter_eq_ok_iff.mpr hsupplied
      have hbody := findBody_eq_error_iff.mpr ⟨hbodies, rfl⟩
      exact .inr ⟨_, hparse, .inr ⟨hcheck, .inr ⟨exists_foldlM_bindAccessor hregistered, hbody⟩⟩⟩

/-- A method compiles exactly when nothing is wrong with it, and otherwise its first fault is
reported. The compiled route has bound the accessors of the destination as they are registered, and
no others; its body is the only body parameter; its verb is the declared one or `GET`; its provider
is the one that is attached to the method. -/
theorem compile_reports_firstFault (m : Method) (b : Bindings) :
    ((∃ r, compile m b = .ok r) ↔ ∃ d, m.IsSound b d) ∧
      (∀ e, compile m b = .error e ↔ m.FirstFault b e) ∧
      ∀ r, compile m b = .ok r →
        m.IsSound b r.destination ∧
        (∀ name, name ∈ r.accessors.keys ↔ name ∈ r.destination.accessors) ∧
        (∀ name ∈ r.destination.accessors, r.accessors.get? name = b.accessors.get? name) ∧
        (∀ index, r.bodyIndex = some index ↔
          ∃ p, m.parameters[index]? = some p ∧ p.body = true) ∧
        r.verb = m.verb.getD .get ∧
        r.provider = b.providers.get? m.signature := by
  refine ⟨exists_compile_iff, fun e => compile_eq_error_iff, fun r hr => ?_⟩
  have hcompiled : IsCompiled m b r := isCompiled_of_compile hr
  refine ⟨hcompiled.isSound, fun name => ?_, fun name hname => ?_,
    fun index => hcompiled.bodyIndex_eq_some_iff, hcompiled.verb, hcompiled.provider⟩
  · rw [Table.mem_keys_iff, hcompiled.accessors]
    by_cases hname : name ∈ r.destination.accessors
    · simp [hname, hcompiled.registered name hname]
    · simp [hname]
  · rw [hcompiled.accessors, if_pos hname]

namespace Sample

/-- A method with a label, a parameter that may be absent, a body, and an accessor that is invoked
twice. -/
def edit : Method :=
  ⟨"edit", [.text "id", (Parameter.text "note").asNullable, (Parameter.ofType "item" "Item").asBody],
    none, "\x7broot()\x7d/\x7b0 id\x7d\x7broot()\x7d", .plain, .unit⟩

/-- A method with a fault of each kind but that of its text: an accessor that is not registered, a
position without a parameter, one whose argument may be absent, and two bodies. -/
def broken : Method :=
  ⟨"broken", [(Parameter.text "note").asNullable, (Parameter.text "a").asBody,
      (Parameter.text "b").asBody],
    none, "\x7b1\x7d\x7bother()\x7d\x7b7\x7d\x7b0\x7d", .plain, .unit⟩

/-- The accessor of `edit` and a provider for it. -/
def editBindings : Bindings :=
  (Bindings.empty.withAccessor "root" (.constant "/api")).withProvider edit.signature
    (.constant .empty)

end Sample

/-- The sound method compiles, and of the faults of the other one the leftmost reference to a
parameter is reported. -/
theorem compile_reports_firstFault_sample :
    (∃ r, compile Sample.edit Sample.editBindings = .ok r ∧
      Sample.edit.IsSound Sample.editBindings r.destination ∧
      "root" ∈ r.accessors.keys ∧ r.bodyIndex = some 2 ∧ r.verb = .get ∧
      r.provider = some (.constant .empty)) ∧
    compile Sample.broken Sample.editBindings =
      .error (.parameterOutOfRange Sample.broken.signature 7 3) ∧
    Sample.broken.FirstFault Sample.editBindings
      (.parameterOutOfRange Sample.broken.signature 7 3) := by
  obtain ⟨-, -, hcompiled⟩ := compile_reports_firstFault Sample.edit Sample.editBindings
  obtain ⟨-, hfault, -⟩ := compile_reports_firstFault Sample.broken Sample.editBindings
  have hedit : compile Sample.edit Sample.editBindings =
      .ok ⟨Sample.edit.signature,
        ⟨[.accessor "root", .literal "/", .parameter 0, .accessor "root"]⟩, .get, some 2,
        some (.constant .empty), .unit, .plain, Sample.edit.parameters,
        Table.empty.insert "root" (.constant "/api")⟩ := rfl
  have hbroken : compile Sample.broken Sample.editBindings =
      .error (.parameterOutOfRange Sample.broken.signature 7 3) := rfl
  obtain ⟨hsound, hkeys, -, hbody, hverb, hprovider⟩ := hcompiled _ hedit
  refine ⟨⟨_, hedit, hsound, (hkeys "root").mpr ?_, ?_, hverb, hprovider⟩, hbroken,
    (hfault _).mp hbroken⟩
  · decide
  · exact (hbody 2).mpr ⟨(Parameter.ofType "item" "Item").asBody, rfl, rfl⟩

end Route

end MethodRoutes

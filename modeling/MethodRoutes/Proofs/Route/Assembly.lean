import Mathlib.Data.List.Count
import MethodRoutes.Proofs.Route.Strict

/-!
# What the assembly of a request invokes

An assembly invokes the provider of the route, and then the accessors in the order of the
destination. So it is known what each of them answers: a source has answered the invocations from
before the assembly, and an accessor also those of the segments to its left.

## Main definitions

* `Destination.invocations`, `Route.invocations` — what is invoked, in order
* `Call.textAfter`, `Call.texts` — the text of each segment, if the invocations so far are known

## Main results

* `Call.resolveAll_run` — the texts of segments and the invocations that they leave
* `Call.attachBody_eq_ok_iff`, `Call.attachBody_eq_error_iff` — what attaching a body does
* `Call.assemble_run` — the request of a call and the invocations that its assembly leaves
-/

namespace MethodRoutes

open Json (Value)

/-- Stateful steps over a list: the first one, and the others from the state that it leaves. -/
theorem mapM_cons_run {σ α β : Type} {f : α → StateM σ β} {a : α} {items : List α} {s : σ} :
    (a :: items).mapM f s =
      ((f a s).1 :: (items.mapM f (f a s).2).1, (items.mapM f (f a s).2).2) := by
  rw [List.mapM_cons]
  rfl

/-! ## Resolving a destination -/

namespace Destination

/-- What resolving a destination invokes, in order. -/
def invocations (d : Destination) : List Invocation := d.accessors.map .accessor

variable {segments : List Segment} {name : String}

theorem invocations_append (before segments : List Segment) :
    (mk (before ++ segments)).invocations =
      (mk before).invocations ++ (mk segments).invocations := by
  simp [invocations, accessors]

theorem count_accessors : (mk segments).accessors.count name = segments.count (.accessor name) := by
  induction segments with
  | nil => rfl
  | cons s segments ih =>
    rw [accessors] at ih ⊢
    cases s with
    | literal text => simpa [List.filterMap_cons, Segment.accessor?] using ih
    | parameter index => simpa [List.filterMap_cons, Segment.accessor?] using ih
    | accessor n => simpa [List.filterMap_cons, Segment.accessor?, List.count_cons] using ih

theorem count_invocations :
    (mk segments).invocations.count (.accessor name) = segments.count (.accessor name) := by
  have hinjective : Function.Injective Invocation.accessor := fun _ _ h => Invocation.accessor.inj h
  rw [invocations, List.count_map_of_injective _ _ hinjective, count_accessors]

end Destination

namespace Call

variable {call : Call} {i : Invocations} {before segments : List Segment} {s : Segment}
  {name : String}

/-- The text that a segment stands for, if some segments have been resolved before it and there
were some invocations before that. An accessor has answered all of them already. -/
def textAfter (call : Call) (i : Invocations) (before : List Segment) : Segment → String
  | .literal text => text
  | .parameter index => textOf (argument call.args index)
  | .accessor name =>
    match call.route.accessors.get? name with
    | some source => source.answer (i.accessors name + before.count (.accessor name))
    | none => ""

/-- The texts that the segments of the destination stand for, after some invocations. -/
def texts (call : Call) (i : Invocations) : List String :=
  call.route.destination.segments.mapIdx fun k s =>
    call.textAfter i (call.route.destination.segments.take k) s

/-- At each of its occurrences an accessor gives the answer that follows those to the invocations
from before and to its occurrences further left. -/
theorem getElem?_texts {after : List Segment} {source : Accessor}
    (hsegments : call.route.destination.segments = before ++ .accessor name :: after)
    (hsource : call.route.accessors.get? name = some source) :
    (call.texts i)[before.length]? =
      some (source.answer (i.accessors name + before.count (.accessor name))) := by
  rw [texts, List.getElem?_mapIdx, hsegments, List.getElem?_append_right (Nat.le_refl _),
    Nat.sub_self, List.getElem?_cons_zero, Option.map_some, List.take_left, textAfter, hsource]

/-- A segment is resolved after some others. The accessor that it may invoke is bound. -/
theorem resolve_run
    (hbound : ∀ name, s = .accessor name → (call.route.accessors.get? name).isSome) :
    call.resolve s (i.after (Destination.mk before).invocations) =
      (call.textAfter i before s, i.after (Destination.mk (before ++ [s])).invocations) := by
  rw [Destination.invocations_append, ← Invocations.after_after]
  cases s with
  | literal text => exact congrArg (Prod.mk text) Invocations.after_nil.symm
  | parameter index => exact congrArg (Prod.mk _) Invocations.after_nil.symm
  | accessor name =>
    obtain ⟨source, hsource⟩ := Option.isSome_iff_exists.mp (hbound name rfl)
    have hcount : (i.after (Destination.mk before).invocations).accessors name =
        i.accessors name + before.count (.accessor name) := by
      rw [Invocations.accessors_after, Destination.count_invocations]
    simp only [resolve, textAfter, hsource]
    rw [Accessor.invoke, hcount]
    rfl

theorem resolveAll_cons_run :
    call.resolveAll (s :: segments) i =
      ((call.resolve s i).1 :: (call.resolveAll segments (call.resolve s i).2).1,
        (call.resolveAll segments (call.resolve s i).2).2) :=
  mapM_cons_run

/-- Segments are resolved after some others, from left to right. -/
theorem resolveAll_run
    (hbound : ∀ name, .accessor name ∈ segments → (call.route.accessors.get? name).isSome) :
    call.resolveAll segments (i.after (Destination.mk before).invocations) =
      (segments.mapIdx fun k s => call.textAfter i (before ++ segments.take k) s,
        i.after (Destination.mk (before ++ segments)).invocations) := by
  -- Each segment that has been resolved moves on to those before.
  induction segments generalizing before with
  | nil =>
    rw [List.append_nil]
    rfl
  | cons s segments ih =>
    have hs : ∀ name, s = .accessor name → (call.route.accessors.get? name).isSome :=
      fun name h => hbound name (h ▸ List.mem_cons_self)
    have hrest : ∀ name, .accessor name ∈ segments → (call.route.accessors.get? name).isSome :=
      fun name h => hbound name (List.mem_cons_of_mem s h)
    rw [resolveAll_cons_run, resolve_run hs, ih hrest]
    simp

end Call

/-! ## Attaching a body -/

namespace Call

variable {codec : Codec} {request request' : Request} {body : Option Value} {v : Value}
  {e : RoutingError}

theorem attachBody_of_absent (h : ∀ v, body = some v → v = .null) :
    attachBody codec request body = .ok request := by
  cases body with
  | none => rfl
  | some v =>
    rw [h v rfl]
    rfl

theorem attachBody_of_ne_null (h : v ≠ .null) :
    attachBody codec request (some v) =
      ((codec.encode v).mapError .ofCodec).map fun bytes =>
        { request with
          body := some bytes
          headers := announce request.headers codec.contentType } := by
  rw [attachBody, Value.isNull_eq_false h, if_neg Bool.false_ne_true]
  cases codec.encode v <;> rfl

/-- A request stays as it is without a body, and otherwise gets the encoded body and perhaps one
header. -/
theorem attachBody_eq_ok_iff :
    attachBody codec request body = .ok request' ↔
      ((∀ v, body = some v → v = .null) ∧ request' = request) ∨
      ∃ v bytes, body = some v ∧ v ≠ .null ∧ codec.encode v = .ok bytes ∧
        request' = { request with
          body := some bytes
          headers := announce request.headers codec.contentType } := by
  by_cases habsent : ∀ v, body = some v → v = .null
  · rw [attachBody_of_absent habsent, Except.ok.injEq, eq_comm]
    refine ⟨fun h => .inl ⟨habsent, h⟩, ?_⟩
    rintro (⟨-, h⟩ | ⟨v, bytes, hbody, hnull, -⟩)
    · exact h
    · exact absurd (habsent v hbody) hnull
  · push Not at habsent
    obtain ⟨v, rfl, hnull⟩ := habsent
    rw [attachBody_of_ne_null hnull, map_eq_ok_iff]
    simp only [mapError_eq_ok_iff]
    simp [hnull, eq_comm]

/-- A body can be attached unless it has no encoding. -/
theorem attachBody_eq_error_iff :
    attachBody codec request body = .error e ↔
      ∃ v cause, body = some v ∧ v ≠ .null ∧ codec.encode v = .error cause ∧
        e = .ofCodec cause := by
  by_cases habsent : ∀ v, body = some v → v = .null
  · rw [attachBody_of_absent habsent]
    refine ⟨fun h => (by cases h), ?_⟩
    rintro ⟨v, cause, hbody, hnull, -⟩
    exact absurd (habsent v hbody) hnull
  · push Not at habsent
    obtain ⟨v, rfl, hnull⟩ := habsent
    rw [attachBody_of_ne_null hnull, map_eq_error_iff, mapError_eq_error_iff]
    simp [hnull, eq_comm]

end Call

/-! ## Assembling a request -/

namespace Route

/-- What asking for the headers invokes: the provider of the route, if it has one. -/
def providerInvocations (r : Route) : List Invocation :=
  (r.provider.map fun _ => .provider r.signature).toList

/-- What an assembly invokes, in order: the provider, and then the accessors of the destination. -/
def invocations (r : Route) : List Invocation :=
  r.providerInvocations ++ r.destination.invocations

theorem count_providerInvocations (r : Route) (name : String) :
    r.providerInvocations.count (.accessor name) = 0 := by
  rw [providerInvocations]
  cases r.provider <;> simp

theorem count_invocations (r : Route) (name : String) :
    r.invocations.count (.accessor name) = r.destination.segments.count (.accessor name) := by
  rw [invocations, List.count_append, count_providerInvocations, Nat.zero_add]
  exact Destination.count_invocations

end Route

namespace Call

variable {call : Call} {i : Invocations}

/-- The request of a call before its body is attached. -/
def bodiless (call : Call) (i : Invocations) : Request :=
  ⟨call.route.verb, (call.url (call.headers i).2).1, (call.headers i).1, none,
    call.route.resultType⟩

theorem assemble_fst (codec : Codec) :
    (call.assemble codec i).1 = attachBody codec (call.bodiless i) call.body? := rfl

theorem headers_run :
    call.headers i =
      ((call.route.provider.map fun p => p.answer (i.providers call.route.signature)).getD .empty,
        i.after call.route.providerInvocations) := by
  rw [headers, Route.providerInvocations]
  cases call.route.provider with
  | none => exact congrArg (Prod.mk _) Invocations.after_nil.symm
  | some provider => rfl

/-- Asking the provider does not change what the accessors answer. -/
theorem texts_after_providerInvocations :
    call.texts (i.after call.route.providerInvocations) = call.texts i := by
  have haccessors (name : String) :
      (i.after call.route.providerInvocations).accessors name = i.accessors name := by
    rw [Invocations.accessors_after, Route.count_providerInvocations, Nat.add_zero]
  rw [texts, texts]
  congr 1
  funext k s
  cases s with
  | accessor name => rw [textAfter, textAfter, haccessors]
  | literal text => rfl
  | parameter index => rfl

theorem url_run (hroute : call.route.WellFormed) :
    call.url i = (String.join (call.texts i), i.after call.route.destination.invocations) := by
  have hbound : ∀ name, .accessor name ∈ call.route.destination.segments →
      (call.route.accessors.get? name).isSome := fun name hmem =>
    Option.isSome_iff_exists.mpr (hroute.bound name (Destination.mem_accessors_iff.mpr hmem))
  have hrun : call.resolveAll call.route.destination.segments i =
      (call.texts i, i.after call.route.destination.invocations) := by
    -- Nothing has been resolved before the whole destination is.
    have hnothing : i.after (Destination.mk []).invocations = i := Invocations.after_nil
    rw [← hnothing, resolveAll_run hbound, hnothing]
    rfl
  calc call.url i
      = (String.join (call.resolveAll call.route.destination.segments i).1,
          (call.resolveAll call.route.destination.segments i).2) := rfl
    _ = (String.join (call.texts i), i.after call.route.destination.invocations) := by rw [hrun]

/-- An assembly asks the provider and then the accessors, each for its next answer, and leaves the
same invocations whether or not the codec can encode the body. -/
theorem assemble_run (hroute : call.route.WellFormed) (codec : Codec) :
    call.assemble codec i =
      (attachBody codec
        ⟨call.route.verb, String.join (call.texts i),
          (call.route.provider.map fun p =>
            p.answer (i.providers call.route.signature)).getD .empty,
          none, call.route.resultType⟩ call.body?,
        i.after call.route.invocations) := by
  have hstep : call.assemble codec i =
      (attachBody codec ⟨call.route.verb, (call.url (call.headers i).2).1, (call.headers i).1,
        none, call.route.resultType⟩ call.body?, (call.url (call.headers i).2).2) := rfl
  rw [hstep, headers_run, url_run hroute]
  dsimp only
  -- The accessors are asked after the provider, which is none of them.
  rw [texts_after_providerInvocations, Invocations.after_after]
  rfl

end Call

end MethodRoutes

import MethodRoutes.Proofs.Route.Arguments
import MethodRoutes.Proofs.Route.Faults

/-!
# Headers and body of an assembled request

The headers of a request are those of the provider, and an assembly adds at most one to them: the
content type of a body. The provider may name a content type itself, in any case of its letters, and
then nothing is added. So the table of the provider is searched without regard to case, but extended
with regard to it; this file shows that no entry of it is lost on the way.

## Main definitions

* `Method.Sends` — which argument becomes the body of a request

## Main results

* `Call.get?_announce_eq_some_iff` — the headers after a content type has been announced
* `Route.body?_eq_some_iff` — the body of a call of a compiled route
* `Route.assembled_of_compile` — the headers and the body of an assembled request
-/

namespace MethodRoutes

open Json (Value)

/-! ## Announcing a content type -/

namespace Call

variable {headers : Headers} {contentType name value : String}

/-- None of the headers is a content type, whatever the case of its name. -/
def IsUnannounced (headers : Headers) : Prop :=
  ∀ name ∈ headers.keys, sameName "content-type" name = false

theorem announce_of_isUnannounced (h : IsUnannounced headers) :
    announce headers contentType = headers.insert "content-type" contentType := by
  rw [announce, if_neg]
  simpa [IsUnannounced] using h

theorem announce_of_not_isUnannounced (h : ¬ IsUnannounced headers) :
    announce headers contentType = headers := by
  rw [announce, if_pos]
  simpa [IsUnannounced] using h

/-- A content type that is announced is a header of its own. -/
theorem IsUnannounced.get?_eq_none (h : IsUnannounced headers) :
    headers.get? "content-type" = none := by
  rw [Table.get?_eq_none_iff]
  intro hmem
  have hsame : sameName "content-type" "content-type" = true := by simp [sameName]
  rw [h _ hmem] at hsame
  cases hsame

/-- No header gets lost when a content type is announced, and the content type comes in exactly if
there was none before. -/
theorem get?_announce_eq_some_iff :
    (announce headers contentType).get? name = some value ↔
      headers.get? name = some value ∨
        name = "content-type" ∧ value = contentType ∧ IsUnannounced headers := by
  by_cases hnone : IsUnannounced headers
  · rw [announce_of_isUnannounced hnone, Table.get?_insert]
    by_cases hname : "content-type" = name
    · subst hname
      simp [hnone.get?_eq_none, hnone, eq_comm]
    · have hname' : ¬ name = "content-type" := fun h => hname h.symm
      simp [hname, hname']
  · rw [announce_of_not_isUnannounced hnone]
    simp [hnone]

end Call

/-! ## The body of a call -/

/-- A value is sent by a method as the body: it is the argument of a parameter that is declared to
be the body, and it is not absent. -/
def Method.Sends (m : Method) (args : List Value) (v : Value) : Prop :=
  ∃ (index : Nat) (p : Parameter), m.parameters[index]? = some p ∧ p.body = true ∧
    args[index]? = some v ∧ v ≠ .null

theorem argument_eq_iff {args : List Value} {index : Nat} {v : Value} (h : v ≠ .null) :
    argument args index = v ↔ args[index]? = some v := by
  rw [argument]
  cases args[index]? with
  | none => simpa using h.symm
  | some a => simp

namespace Route

variable {m : Method} {b : Bindings} {r : Route} {args : List Value} {call : Call} {v : Value}

/-- What is attached to the request of a compiled route is the argument that its method sends. -/
theorem body?_eq_some_iff (h : r.IsCompiled m b) :
    (Call.mk r args).body? = some v ∧ v ≠ .null ↔ m.Sends args v := by
  rw [Call.body?, Option.map_eq_some_iff]
  constructor
  · rintro ⟨⟨index, hindex, hv⟩, hnull⟩
    obtain ⟨p, hp, hbody⟩ := h.bodyIndex_eq_some_iff.mp hindex
    exact ⟨index, p, hp, hbody, (argument_eq_iff hnull).mp hv, hnull⟩
  · rintro ⟨index, p, hp, hbody, hv, hnull⟩
    exact ⟨⟨index, h.bodyIndex_eq_some_iff.mpr ⟨p, hp, hbody⟩, (argument_eq_iff hnull).mpr hv⟩,
      hnull⟩

/-! ## The whole request -/

theorem headers_bodiless (h : r.IsCompiled m b) (i : Invocations) :
    ((Call.mk r args).bodiless i).headers =
      ((b.providers.get? m.signature).map fun p =>
        p.answer (i.providers m.signature)).getD .empty := by
  have hheaders : ((Call.mk r args).bodiless i).headers = ((Call.mk r args).headers i).1 := rfl
  rw [hheaders, Call.headers_run, h.provider, h.signature]

/-- The request of a call whose body has an encoding, if it has a body. -/
theorem exists_request_of_encode (h : r.IsCompiled m b) {codec : Codec}
    (hencode : ∀ v, m.Sends args v → ∃ bytes, codec.encode v = .ok bytes) (i : Invocations) :
    ∃ request, ((Call.mk r args).assemble codec i).1 = .ok request ∧
      (request.body.isSome ↔ ∃ v, m.Sends args v) ∧
      (∀ v bytes, m.Sends args v → codec.encode v = .ok bytes → request.body = some bytes) ∧
      ∀ name value, request.headers.get? name = some value ↔
        ((Call.mk r args).bodiless i).headers.get? name = some value ∨
          name = "content-type" ∧ value = codec.contentType ∧ request.body.isSome ∧
            Call.IsUnannounced ((Call.mk r args).bodiless i).headers := by
  by_cases hsends : ∃ v, m.Sends args v
  · obtain ⟨v, hv⟩ := hsends
    obtain ⟨hbody, hnull⟩ := (body?_eq_some_iff h).mpr hv
    obtain ⟨bytes, hbytes⟩ := hencode v hv
    have hattach : Call.attachBody codec ((Call.mk r args).bodiless i) (Call.mk r args).body? =
        .ok _ := Call.attachBody_eq_ok_iff.mpr (.inr ⟨v, bytes, hbody, hnull, hbytes, rfl⟩)
    refine ⟨_, hattach, by simpa using ⟨v, hv⟩, fun v' bytes' hv' hbytes' => ?_,
      fun name value => ?_⟩
    · -- There is one body parameter, so it is the same argument.
      have hbody' := ((body?_eq_some_iff h).mpr hv').1
      rw [hbody, Option.some.injEq] at hbody'
      rw [← hbody', hbytes, Except.ok.injEq] at hbytes'
      rw [hbytes']
    · simpa using Call.get?_announce_eq_some_iff
  · have habsent : ∀ v, (Call.mk r args).body? = some v → v = .null := by
      intro v hv
      by_contra hnull
      exact hsends ⟨v, (body?_eq_some_iff h).mp ⟨hv, hnull⟩⟩
    have hattach : Call.attachBody codec ((Call.mk r args).bodiless i) (Call.mk r args).body? =
        .ok _ := Call.attachBody_eq_ok_iff.mpr (.inl ⟨habsent, rfl⟩)
    have hnone : ((Call.mk r args).bodiless i).body = none := rfl
    refine ⟨_, hattach, by simp [hnone, hsends], fun v bytes hv _ => absurd ⟨v, hv⟩ hsends,
      fun name value => by simp [hnone]⟩

/-- The headers and the body of a request.

If the argument that the method sends has no encoding, then there is no request but the codec's
failure. Otherwise there is one. It has a body exactly if there is such an argument, and that body
is its encoding. Each header of the provider is in it as the provider gave it. What comes in besides
is the content type of the codec, and this exactly if there is a body and the provider names no
content type, in whatever case. -/
theorem assembled_of_compile (h : compile m b = .ok r) (hcall : r.call args = .ok call)
    (codec : Codec) (i : Invocations) :
    let provided : Headers :=
      ((b.providers.get? m.signature).map fun p => p.answer (i.providers m.signature)).getD .empty
    (∀ v e, m.Sends args v → codec.encode v = .error e →
      (call.assemble codec i).1 = .error (.ofCodec e)) ∧
    ((∀ v, m.Sends args v → ∃ bytes, codec.encode v = .ok bytes) →
      ∃ request, (call.assemble codec i).1 = .ok request ∧
        (request.body.isSome ↔ ∃ v, m.Sends args v) ∧
        (∀ v bytes, m.Sends args v → codec.encode v = .ok bytes → request.body = some bytes) ∧
        (∀ name value, provided.get? name = some value → request.headers.get? name = some value) ∧
        ∀ name value,
          (request.headers.get? name = some value ∧ provided.get? name ≠ some value) ↔
            (name = "content-type" ∧ value = codec.contentType ∧ request.body.isSome ∧
              ∀ n ∈ provided.keys, Call.sameName "content-type" n = false)) := by
  intro provided
  have hcompiled : IsCompiled m b r := isCompiled_of_compile h
  have hprovided : ((Call.mk r args).bodiless i).headers = provided := headers_bodiless hcompiled i
  obtain ⟨rfl, -⟩ := call_eq_ok_iff.mp hcall
  refine ⟨fun v e hv hencode => ?_, fun hencode => ?_⟩
  · obtain ⟨hbody, hnull⟩ := (body?_eq_some_iff hcompiled).mpr hv
    exact Call.attachBody_eq_error_iff.mpr ⟨v, e, hbody, hnull, hencode, rfl⟩
  · obtain ⟨request, hassemble, hsome, hbytes, hheaders⟩ :=
      exists_request_of_encode hcompiled hencode i
    rw [hprovided] at hheaders
    refine ⟨request, hassemble, hsome, hbytes, fun name value hname => ?_, fun name value => ?_⟩
    · exact (hheaders name value).mpr (.inl hname)
    · constructor
      · rintro ⟨hname, hnew⟩
        exact ((hheaders name value).mp hname).resolve_left hnew
      · rintro ⟨rfl, rfl, hbody, hnone⟩
        refine ⟨(hheaders _ _).mpr (.inr ⟨rfl, rfl, hbody, hnone⟩), ?_⟩
        simp [Call.IsUnannounced.get?_eq_none hnone]

namespace Sample

/-- A provider that names a content type when it is asked first, and then a tenant. -/
def tagged : Bindings :=
  Bindings.empty.withProvider replace.signature (.cycle .empty
    [Table.empty.insert "Content-Type" "text/plain", Table.empty.insert "X-Tenant" "acme"])

/-- The method that sends its last argument, compiled with the provider. -/
def taggedRoute : Route :=
  { replaceRoute with provider := tagged.providers.get? replace.signature }

end Sample

/-- The content type of the provider is the only one. Without one the codec's comes in beside the
header of the provider, and a codec that cannot encode the argument leaves no request. -/
theorem assembled_of_compile_sample :
    ∃ call, compile Sample.replace Sample.tagged = .ok Sample.taggedRoute ∧
      Sample.taggedRoute.call [.string "a", .string "7", .int 1] = .ok call ∧
      (∃ request, (call.assemble .json .none).1 = .ok request ∧
        request.headers.get? "Content-Type" = some "text/plain" ∧
        request.headers.get? "content-type" ≠ some "application/json") ∧
      (∃ request, (call.assemble .json ⟨[.provider Sample.replace.signature]⟩).1 = .ok request ∧
        request.body = some (Bytes.ofText "1") ∧
        request.headers.get? "X-Tenant" = some "acme" ∧
        request.headers.get? "content-type" = some "application/json") ∧
      (call.assemble ⟨fun _ => .error (.encode "no"), Codec.decodeJson, "none"⟩ .none).1 =
        .error (.ofCodec (.encode "no")) := by
  have h : compile Sample.replace Sample.tagged = .ok Sample.taggedRoute := rfl
  have hcall : Sample.taggedRoute.call [.string "a", .string "7", .int 1] =
      .ok ⟨Sample.taggedRoute, [.string "a", .string "7", .int 1]⟩ := rfl
  have hsends : Sample.replace.Sends [.string "a", .string "7", .int 1] (.int 1) :=
    ⟨2, (Parameter.ofType "item" "Item").asBody, rfl, rfl, rfl, fun h => (by cases h)⟩
  have hencode : ∀ v, Sample.replace.Sends [.string "a", .string "7", .int 1] v →
      ∃ bytes, Codec.json.encode v = .ok bytes := fun v _ => ⟨_, rfl⟩
  refine ⟨_, h, hcall, ?_, ?_, (assembled_of_compile h hcall _ .none).1 _ (.encode "no") hsends rfl⟩
  · obtain ⟨request, hassemble, -, -, hkept, hadded⟩ :=
      (assembled_of_compile h hcall .json .none).2 hencode
    refine ⟨request, hassemble, hkept _ _ rfl, fun hname => ?_⟩
    obtain ⟨-, -, -, hnone⟩ := (hadded _ _).mp ⟨hname, by decide⟩
    exact absurd (hnone "Content-Type" (by decide)) (by decide)
  · obtain ⟨request, hassemble, hbody, hbytes, hkept, hadded⟩ :=
      (assembled_of_compile h hcall .json ⟨[.provider Sample.replace.signature]⟩).2 hencode
    exact ⟨request, hassemble, hbytes _ _ hsends rfl, hkept _ _ rfl,
      ((hadded _ _).mpr ⟨rfl, rfl, hbody.mpr ⟨_, hsends⟩, by decide⟩).1⟩

end Route

end MethodRoutes

import MethodRoutes.Proofs.Http.Codec
import MethodRoutes.Proofs.Json.RoundTrip
import MethodRoutes.Proofs.Json.Scalars
import MethodRoutes.Proofs.Route.Assembly
import MethodRoutes.Proofs.Route.Decoding

/-!
# Bodies in JSON

Arguments are sent as JSON texts, and the bodies of successes are read as such. A value that a
server gives back as it was sent arrives as it was, unless its lists and objects lie deeper in one
another than the reader goes: then the body counts as one that is no JSON text.

A route whose result is a text takes such a body as the text itself. But the reader is asked
first, so a text that happens to be a JSON text of another kind is taken for that, and is no text.

## Main definitions

* `IsTextAnswer` — what the caller of a text route expects for a body

## Main results

* `Call.body_survives` — a body that is sent back arrives as it was sent
* `Route.classify_text` — when a text route gives the expected answer
-/

namespace MethodRoutes

open Json (Value)

/-! ## Values that are sent back -/

/-- The body of a request is the JSON text of the argument that is sent as the body. -/
theorem Call.exists_request_of_body {call : Call} {v : Value} (hbody : call.body? = some v)
    (hnull : v ≠ .null) (i : Invocations) :
    ∃ request, (call.assemble .json i).1 = .ok request ∧
      request.body = some (Bytes.ofText v.render) := by
  have hencode : Codec.json.encode v = .ok (Bytes.ofText v.render) := rfl
  have hattach : attachBody .json (call.bodiless i) call.body? = .ok _ :=
    attachBody_eq_ok_iff.mpr (.inr ⟨v, _, hbody, hnull, hencode, rfl⟩)
  exact ⟨_, hattach, rfl⟩

/-- A value with whole numbers arrives as it was sent if a server gives its text back. If its lists
and objects lie too deep in one another, the text is none that the reader takes: a route whose
result is a text gives the text itself, and any other route fails. -/
theorem Call.body_survives {call : Call} {v : Value} (hbody : call.body? = some v)
    (hwhole : v.IsWhole) (hnull : v ≠ .null) (i : Invocations) :
    ∃ request, (call.assemble .json i).1 = .ok request ∧
      request.body = some (Bytes.ofText v.render) ∧
      ∀ (r : Route) (typeName : String) (response : Response),
        r.resultType = .value typeName → response.isSuccess = true →
        request.body = some response.body →
        (v.depth ≤ 127 →
          ∃ reply, r.classify .json (.ofFormat .any) (.ok response) = .ok reply ∧
            reply.result = some v) ∧
        (127 < v.depth → Codec.isTextName typeName = false →
          ∃ position, r.classify .json (.ofFormat .any) (.ok response) =
            .error (.decode (CodecError.decode typeName
              (Json.Located.message ⟨.malformed .recursionLimit, position⟩)).message)) ∧
        (127 < v.depth → Codec.isTextName typeName = true →
          ∃ reply, r.classify .json (.ofFormat .any) (.ok response) = .ok reply ∧
            reply.result = some (.string v.render)) := by
  obtain ⟨request, hassemble, hrequest⟩ := exists_request_of_body hbody hnull i
  refine ⟨request, hassemble, hrequest, fun r typeName response htype hsuccess hback => ?_⟩
  have htext : response.body = Bytes.ofText v.render := by
    rw [hrequest] at hback
    exact (Option.some.inj hback).symm
  -- A value starts with some byte, so its text is not taken for an absent body.
  have hne : response.body ≠ [] := by
    obtain ⟨b, t, hcons, -⟩ := hwhole.readsBack.starts
    rw [htext, Value.render, Bytes.ofText_ofList, hcons]
    exact List.cons_ne_nil b t
  refine ⟨fun hdepth => ?_, fun hdepth hname => ?_, fun hdepth hname => ?_⟩
  · have hparse : Value.parse response.body = .ok v := by
      rw [htext]
      exact Value.parse_render hwhole hdepth
    apply Route.exists_reply_of_decode hsuccess
    rw [Route.decode_eq_of_codec htype hne (Codec.decode_json_of_parse hparse) hnull]
    rfl
  · obtain ⟨position, hparse⟩ := Value.parse_render_of_lt_depth hwhole hdepth
    rw [← htext] at hparse
    refine ⟨position, Route.classify_eq_error_of_decode hsuccess ?_⟩
    exact Route.decode_eq_error_of_codec htype hne
      (Codec.decode_json_of_not_isTextName hname hparse)
  · obtain ⟨position, hparse⟩ := Value.parse_render_of_lt_depth hwhole hdepth
    have hcodec := Codec.decode_json_of_isTextName hname hparse
    rw [← htext] at hcodec
    apply Route.exists_reply_of_decode hsuccess
    rw [Route.decode_eq_of_codec htype hne hcodec (fun h => by cases h)]
    rfl

namespace Sample

/-- A value inside of `n` lists. -/
def nested : Nat → Value
  | 0 => .object [("a", .int (-1)), ("b", .string "\n")]
  | n + 1 => .array [nested n]

theorem depth_nested (n : Nat) : (nested n).depth = n + 1 := by
  induction n with
  | zero => rfl
  | succ n ih => rw [nested, Value.depth, Value.itemsDepth, ih, Value.itemsDepth, Nat.max_zero]

theorem isWhole_nested (n : Nat) : (nested n).IsWhole := by
  induction n with
  | zero =>
    have hnumber : (Value.int (-1)).IsWhole := .integer ⟨by decide, by decide⟩
    refine .object (by decide) fun f hf => ?_
    rcases List.mem_pair.mp hf with rfl | rfl
    · exact hnumber
    · exact .string "\n"
  | succ n ih => exact .array fun v hv => List.mem_singleton.mp hv ▸ ih

theorem nested_ne_null (n : Nat) : nested n ≠ .null := by
  cases n <;> exact nofun

/-- Sends its argument as the body and expects a value of a type. -/
def store (typeName : String) : Route :=
  ⟨⟨"store(Tree)"⟩, ⟨[.literal "/trees"]⟩, .post, some 0, none, .value typeName, .plain,
    [(Parameter.ofType "tree" "Tree").asBody], .empty⟩

/-- Gives the value back. -/
def stored (n : Nat) : Response := ⟨201, .empty, Bytes.ofText (nested n).render⟩

end Sample

/-- A value at the limit arrives as it was sent. One level deeper, the route fails, or gives the
text of the value if its result is a text. -/
theorem Call.body_survives_sample :
    let reply (n : Nat) (typeName : String) :=
      (Sample.store typeName).classify .json (.ofFormat .any) (.ok (Sample.stored n))
    (∃ a, reply 126 "Tree" = .ok a ∧ a.result = some (Sample.nested 126)) ∧
      (∃ message, reply 127 "Tree" = .error (.decode message)) ∧
      ∃ a, reply 127 "String" = .ok a ∧
        a.result = some (.string (Sample.nested 127).render) := by
  intro reply
  have hcall (n : Nat) : (Call.mk (Sample.store "Tree") [Sample.nested n]).body? =
      some (Sample.nested n) := rfl
  have hsuccess (n : Nat) : (Sample.stored n).isSuccess = true := rfl
  have hbody (n : Nat) : some (Bytes.ofText (Sample.nested n).render) =
      some (Sample.stored n).body := rfl
  obtain ⟨request, -, hrequest, hback⟩ := body_survives (hcall 126)
    (Sample.isWhole_nested 126) (Sample.nested_ne_null 126) .none
  obtain ⟨request', -, hrequest', hback'⟩ := body_survives (hcall 127)
    (Sample.isWhole_nested 127) (Sample.nested_ne_null 127) .none
  rw [hbody] at hrequest hrequest'
  have hflat : (Sample.nested 126).depth ≤ 127 := Nat.le_of_eq (Sample.depth_nested 126)
  have hdeep : 127 < (Sample.nested 127).depth := Nat.lt_of_lt_of_eq (by decide)
    (Sample.depth_nested 127).symm
  obtain ⟨hread, -⟩ := hback (Sample.store "Tree") "Tree" (Sample.stored 126) rfl (hsuccess _) hrequest
  obtain ⟨-, hrefused, -⟩ :=
    hback' (Sample.store "Tree") "Tree" (Sample.stored 127) rfl (hsuccess _) hrequest'
  obtain ⟨-, -, htext⟩ :=
    hback' (Sample.store "String") "String" (Sample.stored 127) rfl (hsuccess _) hrequest'
  obtain ⟨position, hfails⟩ := hrefused hdeep (by decide)
  exact ⟨hread hflat, ⟨_, hfails⟩, htext hdeep (by decide)⟩

/-! ## Texts -/

/-- What the caller of a text route expects for a body: the text that it spells if it is a JSON
string, and otherwise the body itself. -/
def IsTextAnswer (body : Bytes) (answer : String) : Prop :=
  Json.IsStringDocument body answer ∨
    (¬ ∃ text, Json.IsStringDocument body text) ∧ body = Bytes.ofText answer

namespace Route

variable {r : Route} {response : Response} {typeName text : String}

/-- What the codec takes for a text is the answer. -/
theorem classify_text_of_codec {answer : String} (htype : r.resultType = .value typeName)
    (hsuccess : response.isSuccess = true) (hne : response.body ≠ [])
    (hcodec : Codec.json.decode response.body (.value typeName) = .ok (.string answer)) :
    ∃ reply, r.classify .json (.ofFormat .text) (.ok response) = .ok reply ∧
      reply.result = some answer := by
  apply exists_reply_of_decode hsuccess
  rw [decode_eq_of_codec htype hne hcodec (fun h => by cases h)]
  rfl

/-- A route whose result is a text gives the expected answer for every body that is a text, neither
empty nor `null`, unless it is a JSON text that is no string. In that case the route fails. -/
theorem classify_text (htype : r.resultType = .value typeName)
    (hname : Codec.isTextName typeName = true) (hsuccess : response.isSuccess = true)
    (hbody : response.body = Bytes.ofText text) (hempty : text ≠ "")
    (hnull : ¬ Json.IsNullDocument response.body) :
    ((∃ reply answer, r.classify .json (.ofFormat .text) (.ok response) = .ok reply ∧
        reply.result = some answer ∧ IsTextAnswer response.body answer) ↔
      ∀ v, Value.parse response.body = .ok v → ∃ answer, v = .string answer) ∧
    ∀ v, Value.parse response.body = .ok v → (∀ answer, v ≠ .string answer) →
      r.classify .json (.ofFormat .text) (.ok response) = .error (.decode (r.signature.text ++
        ": " ++ (Json.Mismatch.invalidType (.ofValue v) "a string").message)) := by
  have hne : response.body ≠ [] := by
    rw [hbody]
    exact fun h => hempty (Bytes.ofText_eq_nil_iff.mp h)
  have hfails : ∀ v, Value.parse response.body = .ok v → (∀ answer, v ≠ .string answer) →
      r.classify .json (.ofFormat .text) (.ok response) = .error (.decode (r.signature.text ++
        ": " ++ (Json.Mismatch.invalidType (.ofValue v) "a string").message)) := by
    intro v hparse hother
    have hvalue : v ≠ .null := by
      rintro rfl
      exact hnull (Value.parse_eq_null_iff.mp hparse)
    apply classify_eq_error_of_decode hsuccess
    rw [decode_eq_of_codec htype hne (Codec.decode_json_of_parse hparse) hvalue]
    cases v with
    | string answer => exact absurd rfl (hother answer)
    | _ => rfl
  refine ⟨⟨?_, fun hstring => ?_⟩, hfails⟩
  · rintro ⟨reply, answer, hreply, -, -⟩ v hparse
    by_contra hother
    rw [hfails v hparse (not_exists.mp hother)] at hreply
    cases hreply
  · cases hparse : Value.parse response.body with
    | ok v =>
      -- The body is a JSON text, and by assumption a string.
      obtain ⟨answer, rfl⟩ := hstring v hparse
      obtain ⟨reply, hreply, hresult⟩ :=
        classify_text_of_codec htype hsuccess hne (Codec.decode_json_of_parse hparse)
      exact ⟨reply, answer, hreply, hresult, .inl (Value.parse_eq_string_iff.mp hparse)⟩
    | error cause =>
      -- The body is no JSON text at all, so the codec gives the text itself.
      rw [hbody] at hparse
      have hcodec := Codec.decode_json_of_isTextName hname hparse
      rw [← hbody] at hcodec hparse
      obtain ⟨reply, hreply, hresult⟩ := classify_text_of_codec htype hsuccess hne hcodec
      refine ⟨reply, text, hreply, hresult, .inr ⟨?_, hbody⟩⟩
      rintro ⟨answer, hstring⟩
      rw [Value.parse_eq_string_iff.mpr hstring] at hparse
      cases hparse

/-- A text that is no JSON text is the answer, one that is a JSON string spells it, and a number
is taken for neither. -/
theorem classify_text_sample :
    let hello : Route := ⟨⟨"hello()"⟩, ⟨[.literal "/hello"]⟩, .get, none, none, .value "String",
      .statusAware, [], .empty⟩
    let response (text : String) : Response := ⟨200, .empty, Bytes.ofText text⟩
    let reply (text : String) := hello.classify .json (.ofFormat .text) (.ok (response text))
    (∃ a answer, reply "Hello world" = .ok a ∧ a.result = some answer ∧
        IsTextAnswer (response "Hello world").body answer) ∧
      (∃ a answer, reply " \"Hello\"" = .ok a ∧ a.result = some answer ∧
        IsTextAnswer (response " \"Hello\"").body answer) ∧
      reply "true" =
        .error (.decode "hello(): invalid type: boolean `true`, expected a string") := by
  intro hello response reply
  have hnull : ∀ text, Value.parse (response text).body ≠ .ok .null →
      ¬ Json.IsNullDocument (response text).body :=
    fun text hother hdocument => hother (Value.parse_eq_null_iff.mpr hdocument)
  have hplain : ∃ cause, Value.parse (response "Hello world").body = .error cause := ⟨_, rfl⟩
  have hquoted : Value.parse (response " \"Hello\"").body = .ok (.string "Hello") := rfl
  have hbool : Value.parse (response "true").body = .ok (.bool true) := rfl
  obtain ⟨cause, hplain⟩ := hplain
  refine ⟨?_, ?_, ?_⟩
  · refine (classify_text (r := hello) rfl rfl rfl rfl (by decide) (hnull _ ?_)).1.mpr ?_
    · rw [hplain]
      exact nofun
    · intro v hv
      rw [hplain] at hv
      cases hv
  · refine (classify_text (r := hello) rfl rfl rfl rfl (by decide) (hnull _ ?_)).1.mpr ?_
    · rw [hquoted]
      exact nofun
    · intro v hv
      rw [hquoted] at hv
      cases hv
      exact ⟨_, rfl⟩
  · refine (classify_text (r := hello) rfl rfl rfl rfl (by decide) (hnull _ ?_)).2 _ hbool nofun
    rw [hbool]
    exact nofun

/-- Not every text arrives: one that is a number is neither empty nor `null`, but the route fails. -/
theorem classify_text_number :
    let hello : Route := ⟨⟨"hello()"⟩, ⟨[.literal "/hello"]⟩, .get, none, none, .value "String",
      .plain, [], .empty⟩
    let response : Response := ⟨200, .empty, Bytes.ofText "42"⟩
    Codec.isTextName "String" = true ∧ response.isSuccess = true ∧
      response.body = Bytes.ofText "42" ∧ ¬ Json.IsNullDocument response.body ∧
      IsTextAnswer response.body "42" ∧
      hello.classify .json (.ofFormat .text) (.ok response) =
        .error (.decode "hello(): invalid type: integer `42`, expected a string") := by
  intro hello response
  have hparse : Value.parse response.body = .ok (.int 42) := rfl
  refine ⟨by decide, rfl, rfl, fun hnull => ?_, .inr ⟨?_, rfl⟩, rfl⟩
  · rw [Value.parse_eq_null_iff.mpr hnull] at hparse
    cases hparse
  · rintro ⟨text, hstring⟩
    rw [Value.parse_eq_string_iff.mpr hstring] at hparse
    cases hparse

end Route

end MethodRoutes

import MethodRoutes.Proofs.Route.StatusAware

/-!
# What routes decode

The body of a response matters to a route in one case: the response is a success, the route expects
something, and the body is not empty. Everything else that a reply tells is read off the status
code and the headers. This file says what becomes of the body in that case, for every codec and
every decoder, and that there is no other one.

## Main results

* `Route.decode_eq_none`, `Route.decode_eq_ok_iff`, `Route.decode_eq_error_iff` — what a body
  decodes to, and when it cannot be decoded
* `Route.exists_reply_iff_decode`, `Route.classify_eq_error_iff_decode` — both kinds of routes
  make the same of a success
* `Route.classify_ok_congr` — responses with the same status code and headers are told apart by
  nothing but what is decoded of a success
* `Route.classify_depends_on_decoded` — the three cases together
-/

namespace MethodRoutes

open Json (Value)

variable {ρ : Type}

namespace Route

variable {r : Route} {codec codec' : Codec} {decoder : Decoder ρ} {response response' : Response}
  {typeName : String} {e : RoutingError} {v : Value} {result : Option ρ}

/-! ## Decoding a body -/

/-- Nothing is decoded if the route expects nothing, or if there is no body. -/
theorem decode_eq_none (h : r.resultType = .unit ∨ response.body = []) :
    r.decode codec decoder response = .ok none := by
  rw [decode, if_pos]
  rcases h with htype | hbody
  · simp [htype, ResultType.isUnit]
  · simp [hbody]

/-- A body goes to the codec, and what the codec makes of it to the decoder unless it is `null`. -/
theorem decode_of_ne_nil (htype : r.resultType = .value typeName) (hbody : response.body ≠ []) :
    r.decode codec decoder response =
      (codec.decode response.body (.value typeName)).mapError .ofCodec >>= fun v =>
        if v.isNull then .ok none
        else ((decoder v).map some).mapError fun message =>
          .decode (r.signature.text ++ ": " ++ message) := by
  have hempty : response.body.isEmpty = false := by simpa using hbody
  rw [decode, htype, hempty, if_neg (by simp [ResultType.isUnit])]
  cases codec.decode response.body (.value typeName) with
  | error cause => rfl
  | ok v =>
    refine if_congr Iff.rfl rfl ?_
    cases decoder v <;> rfl

/-- What the codec cannot decode is a failure of its own. -/
theorem decode_eq_error_of_codec {cause : CodecError} (htype : r.resultType = .value typeName)
    (hbody : response.body ≠ [])
    (hcodec : codec.decode response.body (.value typeName) = .error cause) :
    r.decode codec decoder response = .error (.ofCodec cause) := by
  rw [decode_of_ne_nil htype hbody, hcodec]
  rfl

/-- What the codec has decoded is left to the decoder, unless it is `null`. -/
theorem decode_eq_of_codec (htype : r.resultType = .value typeName) (hbody : response.body ≠ [])
    (hcodec : codec.decode response.body (.value typeName) = .ok v) (hnull : v ≠ .null) :
    r.decode codec decoder response = ((decoder v).map some).mapError fun message =>
      .decode (r.signature.text ++ ": " ++ message) := by
  rw [decode_of_ne_nil htype hbody, hcodec]
  refine if_neg ?_
  rw [Value.isNull_eq_false hnull]
  exact Bool.false_ne_true

/-- A body that stands for `null` has no result. -/
theorem decode_eq_none_of_null (htype : r.resultType = .value typeName)
    (hbody : response.body ≠ [])
    (hcodec : codec.decode response.body (.value typeName) = .ok .null) :
    r.decode codec decoder response = .ok none := by
  rw [decode_of_ne_nil htype hbody, hcodec]
  rfl

/-- A body has no result exactly if it stands for `null`; any other result is the decoder's. -/
theorem decode_eq_ok_iff (htype : r.resultType = .value typeName) (hbody : response.body ≠ []) :
    r.decode codec decoder response = .ok result ↔
      (codec.decode response.body (.value typeName) = .ok .null ∧ result = none) ∨
      ∃ v x, codec.decode response.body (.value typeName) = .ok v ∧ v ≠ .null ∧
        decoder v = .ok x ∧ result = some x := by
  cases hcodec : codec.decode response.body (.value typeName) with
  | error cause => simp [decode_eq_error_of_codec htype hbody hcodec]
  | ok v =>
    by_cases hnull : v = .null
    · subst hnull
      simp [decode_eq_none_of_null htype hbody hcodec, eq_comm]
    · rw [decode_eq_of_codec htype hbody hcodec hnull, mapError_eq_ok_iff, map_eq_ok_iff]
      simp [hnull, eq_comm]

/-- A body cannot be decoded exactly if the codec refuses it, or the decoder what the codec has
made of it. -/
theorem decode_eq_error_iff (htype : r.resultType = .value typeName) (hbody : response.body ≠ []) :
    r.decode codec decoder response = .error e ↔
      (∃ cause, codec.decode response.body (.value typeName) = .error cause ∧
        e = .ofCodec cause) ∨
      ∃ v message, codec.decode response.body (.value typeName) = .ok v ∧ v ≠ .null ∧
        decoder v = .error message ∧ e = .decode (r.signature.text ++ ": " ++ message) := by
  cases hcodec : codec.decode response.body (.value typeName) with
  | error cause => simp [decode_eq_error_of_codec htype hbody hcodec, eq_comm]
  | ok v =>
    by_cases hnull : v = .null
    · subst hnull
      simp [decode_eq_none_of_null htype hbody hcodec]
    · rw [decode_eq_of_codec htype hbody hcodec hnull, mapError_eq_error_iff]
      simp only [map_eq_error_iff]
      simp [hnull, eq_comm]

/-- Only the codec and the decoder can fail. -/
theorem of_decode_eq_error (h : r.decode codec decoder response = .error e) :
    (∃ cause, e = .ofCodec cause) ∨ ∃ message, e = .decode message := by
  cases htype : r.resultType with
  | unit =>
    rw [decode_eq_none (.inl htype)] at h
    cases h
  | value typeName =>
    by_cases hbody : response.body = []
    · rw [decode_eq_none (.inr hbody)] at h
      cases h
    · rcases (decode_eq_error_iff htype hbody).mp h with
        ⟨cause, -, rfl⟩ | ⟨v, message, -, -, -, rfl⟩
      · exact .inl ⟨cause, rfl⟩
      · exact .inr ⟨_, rfl⟩

/-! ## What both kinds of routes make of a success -/

/-- Whatever the kind of the route, its reply has the result that was decoded. -/
theorem exists_reply_of_decode (hsuccess : response.isSuccess = true)
    (h : r.decode codec decoder response = .ok result) :
    ∃ reply, r.classify codec decoder (.ok response) = .ok reply ∧ reply.result = result := by
  rw [classify]
  cases r.returnKind with
  | plain =>
    exact ⟨_, classifyPlain_eq_ok_iff.mpr ⟨response, result, rfl, hsuccess, h, rfl⟩, rfl⟩
  | statusAware =>
    obtain ⟨s, hs⟩ := Status.exists_of_isSuccessCode hsuccess
    exact ⟨.response ⟨result, s, response.headers, none⟩, classifyStatusAware_eq_ok_iff.mpr
      ⟨_, response, rfl, hs, rfl, .inl ⟨rfl, rfl, .inl ⟨hsuccess, h⟩⟩⟩, rfl⟩

/-- Whatever the kind of the route, it fails if decoding does. -/
theorem classify_eq_error_of_decode (hsuccess : response.isSuccess = true)
    (h : r.decode codec decoder response = .error e) :
    r.classify codec decoder (.ok response) = .error e := by
  rw [classify]
  cases r.returnKind with
  | plain => exact classifyPlain_eq_error_iff.mpr (.inl ⟨response, rfl, hsuccess, h⟩)
  | statusAware =>
    exact classifyStatusAware_eq_error_iff.mpr (.inr (.inr
      ⟨response, rfl, Status.exists_of_isSuccessCode hsuccess, hsuccess, h⟩))

/-- The reply to a success has the result that is decoded, and there is no other reply. -/
theorem exists_reply_iff_decode (hsuccess : response.isSuccess = true) :
    (∃ reply, r.classify codec decoder (.ok response) = .ok reply ∧ reply.result = result) ↔
      r.decode codec decoder response = .ok result := by
  constructor
  · rintro ⟨reply, hreply, rfl⟩
    cases hdecode : r.decode codec decoder response with
    | error e =>
      rw [classify_eq_error_of_decode hsuccess hdecode] at hreply
      cases hreply
    | ok decoded =>
      obtain ⟨reply', hreply', hresult⟩ := exists_reply_of_decode hsuccess hdecode
      rw [hreply'] at hreply
      cases hreply
      rw [hresult]
  · exact exists_reply_of_decode hsuccess

/-- A success fails a route exactly if its body cannot be decoded. -/
theorem classify_eq_error_iff_decode (hsuccess : response.isSuccess = true) :
    r.classify codec decoder (.ok response) = .error e ↔
      r.decode codec decoder response = .error e := by
  refine ⟨fun h => ?_, classify_eq_error_of_decode hsuccess⟩
  cases hdecode : r.decode codec decoder response with
  | error cause =>
    rw [classify_eq_error_of_decode hsuccess hdecode] at h
    cases h
    rfl
  | ok decoded =>
    obtain ⟨reply, hreply, -⟩ := exists_reply_of_decode hsuccess hdecode
    rw [hreply] at h
    cases h

/-! ## What a reply depends on -/

/-- Responses with the same status code and headers are told apart by nothing but what is decoded
of a success. -/
theorem classify_ok_congr (hcode : response.code = response'.code)
    (hheaders : response.headers = response'.headers)
    (hdecode : response.isSuccess = true →
      r.decode codec decoder response = r.decode codec' decoder response') :
    r.classify codec decoder (.ok response) = r.classify codec' decoder (.ok response') := by
  have hsuccess' : response'.isSuccess = response.isSuccess := by
    rw [Response.isSuccess, Response.isSuccess, hcode]
  rw [classify, classify]
  cases r.returnKind with
  | plain =>
    simp only [classifyPlain, hsuccess', ← hcode]
    cases hsuccess : response.isSuccess with
    | true => rw [hdecode hsuccess]
    | false => rfl
  | statusAware =>
    simp only [classifyStatusAware_ok, hsuccess', ← hcode, ← hheaders]
    cases hsuccess : response.isSuccess with
    | true => rw [hdecode hsuccess]
    | false => rfl

/-- The reply of a route depends on the body only if there is something to decode. A response that
is no success, or that a route without a result gets, is classified by its status code and headers
alone. A success without a body gives an absent value under every codec. In all other cases the
route fails exactly if the codec or the decoder does; its value is absent exactly if the body
stands for `null`, and is the decoder's result otherwise. -/
theorem classify_depends_on_decoded (r : Route) (decoder : Decoder ρ) :
    (∀ (codec codec' : Codec) (response response' : Response),
      response.code = response'.code → response.headers = response'.headers →
      response.isSuccess = false ∨ r.resultType = .unit →
      r.classify codec decoder (.ok response) = r.classify codec' decoder (.ok response')) ∧
    (∀ response : Response, response.isSuccess = true → r.resultType ≠ .unit →
      response.body = [] → ∀ codec : Codec,
        (∃ reply, r.classify codec decoder (.ok response) = .ok reply ∧ reply.result = none) ∧
        ∀ codec' : Codec,
          r.classify codec decoder (.ok response) = r.classify codec' decoder (.ok response)) ∧
    ∀ (codec : Codec) (response : Response), response.isSuccess = true →
      r.resultType ≠ .unit → response.body ≠ [] →
      (∀ e, r.classify codec decoder (.ok response) = .error e ↔
        (∃ cause, codec.decode response.body r.resultType = .error cause ∧ e = .ofCodec cause) ∨
        ∃ v message, codec.decode response.body r.resultType = .ok v ∧ v ≠ .null ∧
          decoder v = .error message ∧ e = .decode (r.signature.text ++ ": " ++ message)) ∧
      ∀ result, (∃ reply, r.classify codec decoder (.ok response) = .ok reply ∧
          reply.result = result) ↔
        (codec.decode response.body r.resultType = .ok .null ∧ result = none) ∨
        ∃ v x, codec.decode response.body r.resultType = .ok v ∧ v ≠ .null ∧
          decoder v = .ok x ∧ result = some x := by
  refine ⟨fun codec codec' response response' hcode hheaders hcase => ?_,
    fun response hsuccess _ hbody codec => ⟨?_, fun codec' => ?_⟩,
    fun codec response hsuccess htype hbody => ?_⟩
  · refine classify_ok_congr hcode hheaders fun hsuccess => ?_
    rcases hcase with hrejected | htype
    · rw [hsuccess] at hrejected
      cases hrejected
    · rw [decode_eq_none (.inl htype), decode_eq_none (.inl htype)]
  · exact exists_reply_of_decode hsuccess (decode_eq_none (.inr hbody))
  · refine classify_ok_congr rfl rfl fun _ => ?_
    rw [decode_eq_none (.inr hbody), decode_eq_none (.inr hbody)]
  · cases hvalue : r.resultType with
    | unit => exact absurd hvalue htype
    | value typeName =>
      refine ⟨fun e => ?_, fun result => ?_⟩
      · rw [classify_eq_error_iff_decode hsuccess, decode_eq_error_iff hvalue hbody]
      · rw [exists_reply_iff_decode hsuccess, decode_eq_ok_iff hvalue hbody]

namespace Sample

/-- Finds a user. -/
def find (kind : ReturnKind) : Route :=
  ⟨⟨"find()"⟩, ⟨[.literal "/users"]⟩, .get, none, none, .value "User", kind, [], .empty⟩

/-- A codec that reads nothing. -/
def blind : Codec := ⟨fun _ => .error (.encode "blind"), fun _ _ => .error (.decode "User" "blind"),
  "text/plain"⟩

/-- A response with a text. -/
def answer (code : UInt16) (text : String) : Response := ⟨code, .empty, Bytes.ofText text⟩

end Sample

/-- A codec that reads nothing fails neither for the page of a rejection nor for a missing body. The
body of a success is read: `null` is no value, and half a list fails the route. -/
theorem classify_depends_on_decoded_sample :
    (Sample.find .plain).classify .json Except.ok (.ok (Sample.answer 404 "<h1>gone</h1>")) =
        (Sample.find .plain).classify Sample.blind Except.ok (.ok (Sample.answer 404 "")) ∧
      (∃ reply, (Sample.find .statusAware).classify Sample.blind Except.ok
        (.ok (Sample.answer 204 "")) = .ok reply ∧ reply.result = none) ∧
      (∃ reply, (Sample.find .statusAware).classify .json Except.ok
        (.ok (Sample.answer 200 " null")) = .ok reply ∧ reply.result = none) ∧
      ∃ message, (Sample.find .plain).classify .json Except.ok (.ok (Sample.answer 200 "[1")) =
        .error (.decode message) := by
  obtain ⟨hrejected, -, hfails⟩ :=
    classify_depends_on_decoded (Sample.find .plain) (Except.ok : Decoder Value)
  obtain ⟨-, hmissing, hread⟩ :=
    classify_depends_on_decoded (Sample.find .statusAware) (Except.ok : Decoder Value)
  have htype (kind : ReturnKind) : (Sample.find kind).resultType ≠ .unit := nofun
  have hnull : Codec.json.decode (Sample.answer 200 " null").body (.value "User") = .ok .null := rfl
  refine ⟨hrejected _ _ _ _ rfl rfl (.inl rfl), (hmissing _ rfl (htype _) rfl _).1,
    ((hread _ _ rfl (htype _) (by decide)).2 none).mpr (.inl ⟨hnull, rfl⟩), ?_⟩
  exact ⟨_, ((hfails _ _ rfl (htype _) (by decide)).1 _).mpr (.inl ⟨_, rfl, rfl⟩)⟩

end Route

end MethodRoutes

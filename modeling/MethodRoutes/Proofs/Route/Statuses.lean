import MethodRoutes.Proofs.Route.Decoding

/-!
# The status behind replies and errors

A response with a status code of three digits can reach the caller of a route in several ways: as a
wrapper, as an error that names the status, as a failure of the transport that carries the response.
All of them tell the status, and the parts of a wrapper agree on it although nothing in a wrapper
says that they have to: it is what routes put into wrappers that agrees.

There is one exception. A success whose body cannot be decoded ends in an error that has forgotten
the response.

## Main definitions

* `Wrapper.Coherent` — the parts of a wrapper fit together

## Main results

* `Route.coherent_of_classifyStatusAware` — routes make coherent wrappers only
* `Route.classify_projections_agree` — so the projections of a wrapper do not contradict each other
* `Route.status?_of_classify_eq_error` — which errors tell the status of the response behind them
-/

namespace MethodRoutes

open Json (Value)

variable {ρ : Type} {s : Status} {e : RoutingError} {response : Response}

/-! ## Wrappers -/

namespace Wrapper

variable {w : Wrapper ρ}

/-- The parts of a wrapper fit together. -/
structure Coherent (w : Wrapper ρ) : Prop where
  /-- Only a success has a result. -/
  isSuccess_of_result : ∀ v, w.result = some v → w.status.isSuccess = true
  /-- What was recovered from a failure has no result. -/
  result_of_routingError : ∀ failure, w.routingError = some failure → w.result = none
  /-- The failure has the status of the wrapper. -/
  status?_of_routingError : ∀ failure, w.routingError = some failure →
    failure.status? = some w.status

theorem Coherent.result_eq_none (h : w.Coherent) (hstatus : w.status.isSuccess = false) :
    w.result = none := by
  cases hresult : w.result with
  | none => rfl
  | some v =>
    rw [h.isSuccess_of_result v hresult] at hstatus
    cases hstatus

theorem Coherent.routingError_eq_none (h : w.Coherent) {v : ρ} (hresult : w.result = some v) :
    w.routingError = none := by
  cases hfailure : w.routingError with
  | none => rfl
  | some failure =>
    rw [h.result_of_routingError failure hfailure] at hresult
    cases hresult

theorem asResult_eq_ok_iff {result : Option ρ} :
    w.asResult = .ok result ↔ w.status.isSuccess = true ∧ w.result = result := by
  rw [asResult]
  cases w.status.isSuccess <;> simp

theorem asResult_eq_error_iff :
    w.asResult = .error s ↔ w.status.isSuccess = false ∧ w.status = s := by
  rw [asResult]
  cases w.status.isSuccess <;> simp

theorem responseAsResult_eq_ok_iff {v : ρ} : w.responseAsResult = .ok v ↔ w.result = some v := by
  rw [responseAsResult]
  cases w.result <;> simp

theorem responseAsResult_eq_error_iff {failure : Option RoutingError} :
    w.responseAsResult = .error failure ↔ w.result = none ∧ w.routingError = failure := by
  rw [responseAsResult]
  cases w.result <;> simp

end Wrapper

theorem RoutingError.status?_ofCodec (cause : CodecError) : (ofCodec cause).status? = none := by
  cases cause <;> rfl

namespace Route

variable {r : Route} {codec : Codec} {decoder : Decoder ρ} {outcome : Outcome} {w : Wrapper ρ}

/-! ## What routes put into wrappers -/

/-- Only status-aware routes reply with wrappers. -/
theorem classifyStatusAware_of_classify
    (h : r.classify codec decoder outcome = .ok (.response w)) :
    r.classifyStatusAware codec decoder outcome = .ok (.response w) := by
  rw [classify] at h
  split at h
  · obtain ⟨_, _, -, -, -, hreply⟩ := classifyPlain_eq_ok_iff.mp h
    cases hreply
  · exact h

/-- Routes make coherent wrappers only. -/
theorem coherent_of_classifyStatusAware
    (h : r.classifyStatusAware codec decoder outcome = .ok (.response w)) : w.Coherent := by
  obtain ⟨_, response, hw, hcode, -, hcase⟩ := classifyStatusAware_eq_ok_iff.mp h
  cases hw
  rcases hcase with ⟨-, hnone, hbody⟩ | ⟨f, -, hresponse, hfailure, hresult⟩
  -- The server's response has arrived as such, so there is no failure to agree with.
  · refine ⟨fun v hv => ?_, fun failure hsome => ?_, fun failure hsome => ?_⟩
    · rcases hbody with ⟨hsuccess, -⟩ | ⟨-, hresult⟩
      · rw [Status.isSuccess, hcode]
        exact hsuccess
      · rw [hresult] at hv
        cases hv
    · rw [hnone] at hsome
      cases hsome
    · rw [hnone] at hsome
      cases hsome
  -- The response was in a failure, so nothing has been decoded.
  · refine ⟨fun v hv => ?_, fun _ _ => hresult, fun failure hsome => ?_⟩
    · rw [hresult] at hv
      cases hv
    · rw [hfailure] at hsome
      cases hsome
      exact RoutingError.status?_transport hresponse hcode

/-- The projections of a wrapper never contradict each other. Its status and headers are those of
the response that the outcome carries; a result comes with a success and without a failure; a
failure comes without a result and has the same status; and both ways to read a wrapper as a result
say the same about result, status and failure. -/
theorem classify_projections_agree (h : r.classify codec decoder outcome = .ok (.response w)) :
    (∃ response, outcome.response? = some response ∧ w.status.code = response.code ∧
      w.headers = response.headers) ∧
    (∀ v, w.result = some v → w.status.isSuccess = true ∧ w.routingError = none) ∧
    (∀ e, w.routingError = some e → w.result = none ∧ e.status? = some w.status) ∧
    (w.asResult = .ok w.result ↔ w.status.isSuccess = true) ∧
    (w.status.isSuccess = false → w.asResult = .error w.status ∧ w.result = none) ∧
    (∀ v, w.responseAsResult = .ok v → w.asResult = .ok (some v) ∧ w.routingError = none) ∧
    ∀ failure, w.responseAsResult = .error failure →
      failure = w.routingError ∧ w.result = none := by
  have hreply := classifyStatusAware_of_classify h
  have hcoherent : w.Coherent := coherent_of_classifyStatusAware hreply
  refine ⟨?_, fun v hv => ⟨hcoherent.isSuccess_of_result v hv, hcoherent.routingError_eq_none hv⟩,
    fun e he => ⟨hcoherent.result_of_routingError e he, hcoherent.status?_of_routingError e he⟩,
    ?_, fun hstatus => ?_, fun v hv => ?_, fun failure hfailure => ?_⟩
  · obtain ⟨_, response, hw, hcode, hheaders, hcase⟩ := classifyStatusAware_eq_ok_iff.mp hreply
    cases hw
    rcases hcase with ⟨rfl, -⟩ | ⟨f, rfl, hresponse, -⟩
    · exact ⟨response, rfl, hcode, hheaders⟩
    · exact ⟨response, hresponse, hcode, hheaders⟩
  · rw [Wrapper.asResult_eq_ok_iff, and_iff_left rfl]
  · exact ⟨Wrapper.asResult_eq_error_iff.mpr ⟨hstatus, rfl⟩, hcoherent.result_eq_none hstatus⟩
  · have hresult := Wrapper.responseAsResult_eq_ok_iff.mp hv
    exact ⟨Wrapper.asResult_eq_ok_iff.mpr ⟨hcoherent.isSuccess_of_result v hresult, hresult⟩,
      hcoherent.routingError_eq_none hresult⟩
  · obtain ⟨hresult, hsame⟩ := Wrapper.responseAsResult_eq_error_iff.mp hfailure
    exact ⟨hsame.symm, hresult⟩

/-- A response that the transport took for a failure gives no result, even if its status says
success; one that arrived as such is decoded. -/
theorem classify_projections_agree_sample :
    let find : Route := Sample.find .statusAware
    let raised : Outcome := .error (.status (Sample.answer 204 ""))
    let found : Outcome := .ok (Sample.answer 200 "[1]")
    (∃ w, find.classify .json Except.ok raised = .ok (.response w) ∧
      w.asResult = .ok none ∧ w.status.code = 204 ∧
      ∃ e, w.responseAsResult = .error (some e) ∧ e.status? = some w.status) ∧
    ∃ w, find.classify .json Except.ok found = .ok (.response w) ∧
      w.responseAsResult = .ok (.array [.int 1]) ∧ w.asResult = .ok (some (.array [.int 1])) := by
  intro find raised found
  have hraised : find.classify .json (Except.ok : Decoder Value) raised = .ok (.response
      ⟨none, ⟨204, by decide⟩, .empty, some (.transport (.status (Sample.answer 204 "")))⟩) := rfl
  have hfound : find.classify .json (Except.ok : Decoder Value) found = .ok (.response
      ⟨some (.array [.int 1]), ⟨200, by decide⟩, .empty, none⟩) := rfl
  obtain ⟨-, -, hfailure, hresult, -⟩ := classify_projections_agree hraised
  obtain ⟨-, -, -, -, -, hread, -⟩ := classify_projections_agree hfound
  exact ⟨⟨_, hraised, hresult.mpr rfl, rfl, _, rfl, (hfailure _ rfl).2⟩,
    _, hfound, rfl, (hread _ rfl).1⟩

/-! ## Which errors tell the status -/

/-- Whatever goes wrong in decoding, the response is forgotten. -/
theorem status?_of_decode_eq_error (h : r.decode codec decoder response = .error e) :
    e.status? = none := by
  rcases of_decode_eq_error h with ⟨cause, rfl⟩ | ⟨message, rfl⟩
  · exact RoutingError.status?_ofCodec cause
  · rfl

/-- The error for a response that is not decoded tells its status. -/
theorem status?_of_classify_of_not_decoded (hresponse : outcome.response? = some response)
    (hs : s.code = response.code) (hcase : ¬ (outcome = .ok response ∧ response.isSuccess = true))
    (h : r.classify codec decoder outcome = .error e) : e.status? = some s := by
  -- The status code has three digits, so no route complains about it.
  have hchecked : checkedStatus response.code = .ok s := checkedStatus_eq_ok_iff.mpr hs
  rw [classify] at h
  split at h
  -- a plain route
  · rcases classifyPlain_eq_error_iff.mp h with ⟨_, rfl, hsuccess, -⟩ |
      ⟨_, rfl, -, ⟨s', hs', rfl⟩ | hstatus⟩ | ⟨f, rfl, rfl⟩
    · cases hresponse
      exact absurd ⟨rfl, hsuccess⟩ hcase
    · cases hresponse
      exact (Status.ofCode?_eq_some_iff.mpr hs').symm.trans (Status.ofCode?_eq_some_iff.mpr hs)
    · cases hresponse
      rw [hchecked] at hstatus
      cases hstatus
    · exact RoutingError.status?_transport hresponse hs
  -- a status-aware route
  · rcases classifyStatusAware_eq_error_iff.mp h with ⟨f, rfl, hnone, -⟩ |
      ⟨_, hresponse', hstatus⟩ | ⟨_, rfl, -, hsuccess, -⟩
    · rw [Outcome.response?, hnone] at hresponse
      cases hresponse
    · rw [hresponse'] at hresponse
      cases hresponse
      rw [hchecked] at hstatus
      cases hstatus
    · cases hresponse
      exact absurd ⟨rfl, hsuccess⟩ hcase

/-- An error tells the status of the response behind it, unless a success could not be decoded:
exactly then the status is lost. -/
theorem status?_of_classify_eq_error (hresponse : outcome.response? = some response)
    (hs : s.code = response.code) (h : r.classify codec decoder outcome = .error e) :
    (e.status? = some s ↔ ¬ (outcome = .ok response ∧ response.isSuccess = true)) ∧
      (outcome = .ok response → response.isSuccess = true →
        r.decode codec decoder response = .error e ∧ e.status? = none) := by
  have hlost : outcome = .ok response → response.isSuccess = true →
      r.decode codec decoder response = .error e ∧ e.status? = none := by
    rintro rfl hsuccess
    have hdecode := (classify_eq_error_iff_decode hsuccess).mp h
    exact ⟨hdecode, status?_of_decode_eq_error hdecode⟩
  refine ⟨⟨?_, fun hcase => status?_of_classify_of_not_decoded hresponse hs hcase h⟩, hlost⟩
  rintro hstatus ⟨hcompleted, hsuccess⟩
  rw [(hlost hcompleted hsuccess).2] at hstatus
  cases hstatus

/-- A rejection is told by the error of a plain route, in whatever way it is reported. -/
theorem status?_of_classify_eq_error_sample :
    let find : Route := Sample.find .plain
    let raised : Outcome := .error (.status (Sample.answer 409 "taken"))
    let returned : Outcome := .ok (Sample.answer 409 "taken")
    (∃ e, find.classify .json (Except.ok : Decoder Value) raised = .error e ∧
      e.status? = some ⟨409, by decide⟩) ∧
    ∃ e, find.classify .json (Except.ok : Decoder Value) returned = .error e ∧
      e.status? = some ⟨409, by decide⟩ := by
  intro find raised returned
  have hraised : find.classify .json (Except.ok : Decoder Value) raised =
      .error (.transport (.status (Sample.answer 409 "taken"))) := rfl
  have hreturned : find.classify .json (Except.ok : Decoder Value) returned =
      .error (.status ⟨409, by decide⟩) := rfl
  refine ⟨⟨_, hraised, (status?_of_classify_eq_error rfl rfl hraised).1.mpr ?_⟩,
    _, hreturned, (status?_of_classify_eq_error rfl rfl hreturned).1.mpr ?_⟩
  · exact fun hcase => nomatch hcase.1
  · exact fun hcase => nomatch hcase.2

/-- The server has answered with the status 200, but the error of neither kind of route tells so. -/
theorem status?_of_undecodable_success :
    let outcome : Outcome := .ok (Sample.answer 200 "not json")
    outcome.response? = some (Sample.answer 200 "not json") ∧
      (∃ e, (Sample.find .plain).classify .json (Except.ok : Decoder Value) outcome = .error e ∧
        e.status? ≠ some ⟨200, by decide⟩) ∧
      ∃ e, (Sample.find .statusAware).classify .json (Except.ok : Decoder Value) outcome =
          .error e ∧
        e.status? ≠ some ⟨200, by decide⟩ :=
  ⟨rfl, ⟨_, rfl, nofun⟩, _, rfl, nofun⟩

end Route

end MethodRoutes

import MethodRoutes.Client.Basic
import MethodRoutes.Proofs.Route.StatusAware

/-!
# Rejections as failures and as responses

A response that is no success can leave a client in two ways: as a failure of the transport that
carries it, or as the response that it is. A switch of the settings decides. This file compares
what a route makes of the same response under both settings.

The switch has a say in how a rejection is reported, and in nothing else. What a route makes of a
rejected response is therefore described once for every outcome that carries it; a response that
is a success does not even leave the client in two ways.

## Main definitions

* `Client.withErrorOnStatus` — the client with the switch in a given position
* `Outcome.failure?` — the failure that a wrapper keeps of an outcome

## Main results

* `Route.classifyStatusAware_of_rejected`, `Route.classifyPlain_of_rejected` — what each kind of
  route makes of a rejected response, in whatever way it is reported
* `Route.classify_receive_withErrorOnStatus` — the two positions of the switch compared
-/

namespace MethodRoutes

variable {ρ : Type} {client : Client} {response : Response}

/-- The client with the switch for rejected responses in a given position. -/
def Client.withErrorOnStatus (client : Client) (errorOnStatus : Bool) : Client :=
  { client with config := client.config.withErrorOnStatus errorOnStatus }

/-- The failure behind an outcome, as a wrapper keeps it. -/
def Outcome.failure? : Outcome → Option RoutingError
  | .ok _ => none
  | .error e => some (.transport e)

/-! ## How responses leave a client -/

/-- A success leaves the client as it is. -/
theorem Client.receive_of_isSuccess (h : response.isSuccess = true) :
    client.receive response = .ok response := by
  simp [receive, h]

/-- A rejection leaves the client as the switch says. -/
theorem Client.receive_withErrorOnStatus (h : response.isSuccess = false) (errorOnStatus : Bool) :
    (client.withErrorOnStatus errorOnStatus).receive response =
      if errorOnStatus then .error (.status response) else .ok response := by
  have hswitch : (client.withErrorOnStatus errorOnStatus).config.errorOnStatus =
      errorOnStatus := rfl
  rw [receive, hswitch, h, Bool.not_false, Bool.and_true]

/-- Whatever the settings are, the response does not get lost. -/
theorem Client.response?_receive : (client.receive response).response? = some response := by
  rw [receive]
  split
  · rfl
  · rfl

/-! ## What routes make of a rejected response -/

namespace Route

variable {r : Route} {codec : Codec} {decoder : Decoder ρ} {outcome : Outcome}

/-- A status-aware route replies to a rejection with its status and headers, if the status code
has three digits. The way in which the rejection is reported matters only to the failure that the
wrapper keeps. -/
theorem classifyStatusAware_of_rejected (h : outcome.response? = some response)
    (hrejected : response.isSuccess = false) :
    r.classifyStatusAware codec decoder outcome =
      (checkedStatus response.code).map fun s =>
        .response ⟨none, s, response.headers, outcome.failure?⟩ := by
  cases outcome with
  | ok response' =>
    cases h
    rw [classifyStatusAware_ok, if_neg (by simp [hrejected])]
    cases checkedStatus response.code <;> rfl
  | error f =>
    have hresponse : f.response? = some response := h
    have hchecked : r.classifyStatusAware codec decoder (.error f) =
        checkedStatus response.code >>= fun s =>
          .ok (.response ⟨none, s, response.headers, some (.transport f)⟩) := by
      rw [classifyStatusAware, hresponse]
      rfl
    rw [hchecked]
    cases checkedStatus response.code <;> rfl

/-- A plain route fails at a rejection, with an error behind which there is the status of the
response if the code has three digits, and no status otherwise. -/
theorem classifyPlain_of_rejected (h : outcome.response? = some response)
    (hrejected : response.isSuccess = false) :
    ∃ e, r.classifyPlain codec decoder outcome = .error e ∧
      e.status? = Status.ofCode? response.code := by
  cases outcome with
  | ok response' =>
    cases h
    have hplain : r.classifyPlain codec decoder (.ok response) =
        checkedStatus response.code >>= fun s => .error (.status s) := by
      rw [classifyPlain, if_neg (by simp [hrejected])]
    cases hcode : Status.ofCode? response.code with
    | some s =>
      refine ⟨.status s, ?_, rfl⟩
      rw [hplain, checkedStatus, hcode]
      rfl
    | none =>
      -- There is the complaint about the code instead, and no response behind that.
      refine ⟨.transport (.malformed ("invalid status code " ++ toString response.code.toNat)),
        ?_, rfl⟩
      rw [hplain, checkedStatus, hcode]
      rfl
  | error f =>
    have hresponse : f.response? = some response := h
    refine ⟨.transport f, rfl, ?_⟩
    rw [RoutingError.status?, hresponse, Option.bind_some]

/-! ## The two positions of the switch -/

/-- A status-aware route learns the same about a response in both positions of the switch: it
fails with the same error, or replies with wrappers that differ at most in the failure that they
keep. That failure is there exactly if the switch is on and the response is no success. -/
theorem classifyStatusAware_receive_withErrorOnStatus (r : Route) (codec : Codec)
    (decoder : Decoder ρ) (client : Client) (response : Response) :
    (∃ e, r.classifyStatusAware codec decoder
          ((client.withErrorOnStatus true).receive response) = .error e ∧
        r.classifyStatusAware codec decoder
          ((client.withErrorOnStatus false).receive response) = .error e) ∨
      ∃ v s headers, r.classifyStatusAware codec decoder
            ((client.withErrorOnStatus true).receive response) =
          .ok (.response ⟨v, s, headers,
            if response.isSuccess then none else some (.transport (.status response))⟩) ∧
        r.classifyStatusAware codec decoder
            ((client.withErrorOnStatus false).receive response) =
          .ok (.response ⟨v, s, headers, none⟩) := by
  cases hsuccess : response.isSuccess with
  | true =>
    rw [Client.receive_of_isSuccess hsuccess, Client.receive_of_isSuccess hsuccess]
    cases hreply : r.classifyStatusAware codec decoder (.ok response) with
    | error e => exact .inl ⟨e, rfl, rfl⟩
    | ok reply =>
      obtain ⟨w, _, rfl, -, -, ⟨-, hfailure, -⟩ | ⟨_, h, -⟩⟩ :=
        classifyStatusAware_eq_ok_iff.mp hreply
      · obtain ⟨v, s, headers, failure⟩ := w
        cases hfailure
        exact .inr ⟨v, s, headers, rfl, rfl⟩
      · cases h
  | false =>
    rw [classifyStatusAware_of_rejected Client.response?_receive hsuccess,
      classifyStatusAware_of_rejected Client.response?_receive hsuccess,
      Client.receive_withErrorOnStatus hsuccess, Client.receive_withErrorOnStatus hsuccess]
    cases checkedStatus response.code with
    | error e => exact .inl ⟨e, rfl, rfl⟩
    | ok s => exact .inr ⟨none, s, response.headers, rfl, rfl⟩

/-- A plain route learns the same about a response in both positions of the switch: it replies
with the same value, or fails with the same status, and with the same error if the response is a
success. -/
theorem classifyPlain_receive_withErrorOnStatus (r : Route) (codec : Codec)
    (decoder : Decoder ρ) (client : Client) (response : Response) :
    (∃ v, r.classifyPlain codec decoder
          ((client.withErrorOnStatus true).receive response) = .ok (.value v) ∧
        r.classifyPlain codec decoder
          ((client.withErrorOnStatus false).receive response) = .ok (.value v)) ∨
      ∃ e e', r.classifyPlain codec decoder
            ((client.withErrorOnStatus true).receive response) = .error e ∧
        r.classifyPlain codec decoder
            ((client.withErrorOnStatus false).receive response) = .error e' ∧
        e.status? = e'.status? ∧ (response.isSuccess = true → e = e') := by
  cases hsuccess : response.isSuccess with
  | true =>
    rw [Client.receive_of_isSuccess hsuccess, Client.receive_of_isSuccess hsuccess]
    cases hreply : r.classifyPlain codec decoder (.ok response) with
    | error e => exact .inr ⟨e, e, rfl, rfl, rfl, fun _ => rfl⟩
    | ok reply =>
      obtain ⟨_, v, -, -, -, rfl⟩ := classifyPlain_eq_ok_iff.mp hreply
      exact .inl ⟨v, rfl, rfl⟩
  | false =>
    have hrejected : ∀ errorOnStatus, ∃ e, r.classifyPlain codec decoder
        ((client.withErrorOnStatus errorOnStatus).receive response) = .error e ∧
          e.status? = Status.ofCode? response.code :=
      fun _ => classifyPlain_of_rejected Client.response?_receive hsuccess
    obtain ⟨e, hraised, hstatus⟩ := hrejected true
    obtain ⟨e', hreturned, hstatus'⟩ := hrejected false
    exact .inr ⟨e, e', hraised, hreturned, hstatus.trans hstatus'.symm, nofun⟩

/-- The switch changes how a rejection is reported, and never what the caller of a route learns
about the response. -/
theorem classify_receive_withErrorOnStatus (r : Route) (codec : Codec) (decoder : Decoder ρ)
    (client : Client) (response : Response) :
    (r.returnKind = .statusAware →
      (∃ e, r.classify codec decoder
            ((client.withErrorOnStatus true).receive response) = .error e ∧
          r.classify codec decoder
            ((client.withErrorOnStatus false).receive response) = .error e) ∨
        ∃ w w', r.classify codec decoder
              ((client.withErrorOnStatus true).receive response) = .ok (.response w) ∧
          r.classify codec decoder
              ((client.withErrorOnStatus false).receive response) = .ok (.response w') ∧
          w.status = w'.status ∧ w.headers = w'.headers ∧ w.result = w'.result ∧
          w.asResult = w'.asResult ∧ w'.routingError = none ∧
          w.routingError =
            if response.isSuccess then none else some (.transport (.status response))) ∧
    (r.returnKind = .plain →
      (∃ v, r.classify codec decoder
            ((client.withErrorOnStatus true).receive response) = .ok (.value v) ∧
          r.classify codec decoder
            ((client.withErrorOnStatus false).receive response) = .ok (.value v)) ∨
        ∃ e e', r.classify codec decoder
              ((client.withErrorOnStatus true).receive response) = .error e ∧
          r.classify codec decoder
              ((client.withErrorOnStatus false).receive response) = .error e' ∧
          e.status? = e'.status? ∧ (response.isSuccess = true → e = e')) := by
  constructor
  · intro hkind
    simp only [classify, hkind]
    rcases classifyStatusAware_receive_withErrorOnStatus r codec decoder client response with
      herror | ⟨v, s, headers, hraised, hreturned⟩
    · exact .inl herror
    · exact .inr ⟨_, _, hraised, hreturned, rfl, rfl, rfl, rfl, rfl, rfl⟩
  · intro hkind
    simp only [classify, hkind]
    exact classifyPlain_receive_withErrorOnStatus r codec decoder client response

/-- A conflict is told by the wrapper's status in both positions of the switch. A code without
three digits is told by two errors, neither of which has a status. -/
theorem classify_receive_withErrorOnStatus_sample :
    let find (kind : ReturnKind) : Route :=
      ⟨⟨"find()"⟩, ⟨[.literal "/users"]⟩, .get, none, none, .value "User", kind, [], .empty⟩
    let outcome (errorOnStatus : Bool) (code : UInt16) : Outcome :=
      ((Client.mk .default .empty).withErrorOnStatus errorOnStatus).receive (.ofCode code)
    (∃ w w', (find .statusAware).classify .json Except.ok (outcome true 409) = .ok (.response w) ∧
      (find .statusAware).classify .json Except.ok (outcome false 409) = .ok (.response w') ∧
      w.status = w'.status ∧ w'.routingError = none ∧
      w.routingError = some (.transport (.status (.ofCode 409)))) ∧
    ∃ e e', (find .plain).classify .json Except.ok (outcome true 99) = .error e ∧
      (find .plain).classify .json Except.ok (outcome false 99) = .error e' ∧
      e ≠ e' ∧ e.status? = e'.status? := by
  intro find outcome
  constructor
  · rcases (classify_receive_withErrorOnStatus (find .statusAware) .json Except.ok
        ⟨.default, .empty⟩ (.ofCode 409)).1 rfl with
      ⟨e, h, -⟩ | ⟨w, w', hraised, hreturned, hstatus, -, -, -, hnone, hfailure⟩
    · cases h
    · exact ⟨w, w', hraised, hreturned, hstatus, hnone, hfailure⟩
  · rcases (classify_receive_withErrorOnStatus (find .plain) .json Except.ok
        ⟨.default, .empty⟩ (.ofCode 99)).2 rfl with
      ⟨v, h, -⟩ | ⟨e, e', hraised, hreturned, hstatus, -⟩
    · cases h
    · refine ⟨e, e', hraised, hreturned, ?_, hstatus⟩
      cases hraised
      cases hreturned
      decide

end Route

end MethodRoutes

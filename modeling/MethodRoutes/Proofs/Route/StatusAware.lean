import Mathlib.Tactic.Common
import MethodRoutes.Proofs.Route.Compile
import MethodRoutes.Route.Reply

/-!
# Plain and status-aware routes

A plain route reports whatever is no success as an error. A status-aware route reports the status
instead, as soon as the server answered. This file says exactly when each of them gives a reply
and when an error, and compares the two on the same outcome.

## Main results

* `Route.classifyPlain_eq_ok_iff`, `Route.classifyPlain_eq_error_iff`,
  `Route.classifyStatusAware_eq_ok_iff`, `Route.classifyStatusAware_eq_error_iff` — what each kind
  of route makes of an outcome
* `Route.classify_statusAware_simulates_plain` — the status-aware route succeeds with the result of
  the plain one, and keeps the status of what the plain one turns down
-/

namespace MethodRoutes

variable {ρ : Type} {code : UInt16} {s : Status} {e : RoutingError}

/-! ## Status codes -/

theorem Status.ofCode?_eq_some_iff : Status.ofCode? code = some s ↔ s.code = code := by
  rw [Status.ofCode?]
  split
  · next h =>
    rw [Option.some.injEq]
    exact ⟨fun hs => hs ▸ rfl, fun hs => by cases s; cases hs; rfl⟩
  · next h =>
    refine ⟨fun hs => (by cases hs), fun hs => absurd ?_ h⟩
    exact hs ▸ s.valid

/-- The code of a success has three digits. -/
theorem Status.exists_of_isSuccessCode (h : Status.isSuccessCode code = true) :
    ∃ s : Status, s.code = code := by
  simp only [Status.isSuccessCode, Bool.and_eq_true, decide_eq_true_eq] at h
  have hlow : 200 ≤ code.toNat := UInt16.le_iff_toNat_le.mp h.1
  have hhigh : code.toNat < 300 := UInt16.lt_iff_toNat_lt.mp h.2
  refine ⟨⟨code, UInt16.le_iff_toNat_le.mpr ?_, UInt16.le_iff_toNat_le.mpr ?_⟩, rfl⟩
  · exact Nat.le_trans (by decide) hlow
  · exact Nat.le_trans (Nat.le_of_lt hhigh) (by decide)

theorem checkedStatus_eq_ok_iff : checkedStatus code = .ok s ↔ s.code = code := by
  rw [← Status.ofCode?_eq_some_iff, checkedStatus]
  cases Status.ofCode? code <;> simp

/-- The codes that are turned down are those without three digits. -/
theorem checkedStatus_eq_error_iff :
    checkedStatus code = .error e ↔ ¬ (100 ≤ code ∧ code ≤ 999) ∧
      e = .transport (.malformed ("invalid status code " ++ toString code.toNat)) := by
  rw [checkedStatus, Status.ofCode?]
  by_cases h : 100 ≤ code ∧ code ≤ 999
  · rw [dif_pos h]
    exact ⟨fun hs => (by cases hs), fun hs => absurd h hs.1⟩
  · rw [dif_neg h, Except.error.injEq]
    exact ⟨fun hs => ⟨h, hs.symm⟩, fun hs => hs.2.symm⟩

/-- The status behind a failure of the transport is that of the response in it. -/
theorem RoutingError.status?_transport {f : TransportError} {response : Response}
    (h : f.response? = some response) (hs : s.code = response.code) :
    (transport f).status? = some s := by
  rw [status?, h, Option.bind_some]
  exact Status.ofCode?_eq_some_iff.mpr hs

/-! ## What each kind of route makes of an outcome -/

namespace Route

variable {r : Route} {codec : Codec} {decoder : Decoder ρ} {outcome : Outcome}

/-- A plain route replies to successes only. -/
theorem classifyPlain_eq_ok_iff {reply : Reply ρ} :
    r.classifyPlain codec decoder outcome = .ok reply ↔
      ∃ response v, outcome = .ok response ∧ response.isSuccess = true ∧
        r.decode codec decoder response = .ok v ∧ reply = .value v := by
  constructor
  · intro h
    cases outcome with
    | error f => cases h
    | ok response =>
      rw [classifyPlain] at h
      split at h
      · next hsuccess =>
        obtain ⟨v, hdecode, rfl⟩ := map_eq_ok_iff.mp h
        exact ⟨response, v, rfl, hsuccess, hdecode, rfl⟩
      · obtain ⟨s, -, h⟩ := bind_eq_ok_iff.mp h
        cases h
  · rintro ⟨response, v, rfl, hsuccess, hdecode, rfl⟩
    rw [classifyPlain, if_pos hsuccess, hdecode]
    rfl

/-- A plain route fails with the failure of the body's decoding, with the status of a response
that is no success, or with the failure of the transport. -/
theorem classifyPlain_eq_error_iff :
    r.classifyPlain codec decoder outcome = .error e ↔
      (∃ response, outcome = .ok response ∧ response.isSuccess = true ∧
        r.decode codec decoder response = .error e) ∨
      (∃ response, outcome = .ok response ∧ response.isSuccess = false ∧
        ((∃ s : Status, s.code = response.code ∧ e = .status s) ∨
          checkedStatus response.code = .error e)) ∨
      ∃ f, outcome = .error f ∧ e = .transport f := by
  constructor
  · intro h
    cases outcome with
    | error f =>
      cases h
      exact .inr (.inr ⟨f, rfl, rfl⟩)
    | ok response =>
      rw [classifyPlain] at h
      split at h
      · next hsuccess => exact .inl ⟨response, rfl, hsuccess, map_eq_error_iff.mp h⟩
      · next hsuccess =>
        refine .inr (.inl ⟨response, rfl, by simpa using hsuccess, ?_⟩)
        rcases bind_eq_error_iff.mp h with hstatus | ⟨s, hstatus, h⟩
        · exact .inr hstatus
        · cases h
          exact .inl ⟨s, checkedStatus_eq_ok_iff.mp hstatus, rfl⟩
  · rintro (⟨response, rfl, hsuccess, hdecode⟩ | ⟨response, rfl, hsuccess, hstatus⟩ |
      ⟨f, rfl, rfl⟩)
    · rw [classifyPlain, if_pos hsuccess]
      exact map_eq_error_iff.mpr hdecode
    · rw [classifyPlain, if_neg (by simp [hsuccess])]
      rcases hstatus with ⟨s, hs, rfl⟩ | hstatus
      · exact bind_eq_error_iff.mpr (.inr ⟨s, checkedStatus_eq_ok_iff.mpr hs, rfl⟩)
      · exact bind_eq_error_iff.mpr (.inl hstatus)
    · rfl

/-- A status-aware route checks the status of a response before it decodes the body. -/
theorem classifyStatusAware_ok (response : Response) :
    r.classifyStatusAware codec decoder (.ok response) =
      checkedStatus response.code >>= fun s =>
        (if response.isSuccess = true then r.decode codec decoder response else .ok none).map
          fun v => .response ⟨v, s, response.headers, none⟩ := by
  rw [classifyStatusAware]
  split
  · rfl
  · rfl

/-- What a status-aware route decodes: the body of a success, and nothing else. -/
theorem decode_success_eq_ok_iff {response : Response} {v : Option ρ} :
    (if response.isSuccess = true then r.decode codec decoder response else .ok none) = .ok v ↔
      (response.isSuccess = true ∧ r.decode codec decoder response = .ok v) ∨
        (response.isSuccess = false ∧ v = none) := by
  cases response.isSuccess with
  | true => simp
  | false => simp [eq_comm]

/-- A status-aware route replies with the status and headers of the response that the outcome
carries, with the decoded body of a success, and with the failure that the response was in. -/
theorem classifyStatusAware_eq_ok_iff {reply : Reply ρ} :
    r.classifyStatusAware codec decoder outcome = .ok reply ↔
      ∃ w response, reply = .response w ∧ w.status.code = response.code ∧
        w.headers = response.headers ∧
        ((outcome = .ok response ∧ w.routingError = none ∧
            ((response.isSuccess = true ∧ r.decode codec decoder response = .ok w.result) ∨
              (response.isSuccess = false ∧ w.result = none))) ∨
          ∃ f, outcome = .error f ∧ f.response? = some response ∧
            w.routingError = some (.transport f) ∧ w.result = none) := by
  constructor
  · intro h
    cases outcome with
    | ok response =>
      rw [classifyStatusAware_ok] at h
      obtain ⟨s, hstatus, h⟩ := bind_eq_ok_iff.mp h
      obtain ⟨v, hv, rfl⟩ := map_eq_ok_iff.mp h
      exact ⟨_, response, rfl, checkedStatus_eq_ok_iff.mp hstatus, rfl,
        .inl ⟨rfl, rfl, decode_success_eq_ok_iff.mp hv⟩⟩
    | error f =>
      rw [classifyStatusAware] at h
      cases hresponse : f.response? with
      | none =>
        rw [hresponse] at h
        cases h
      | some response =>
        rw [hresponse] at h
        obtain ⟨s, hstatus, h⟩ := bind_eq_ok_iff.mp h
        cases h
        exact ⟨_, response, rfl, checkedStatus_eq_ok_iff.mp hstatus, rfl,
          .inr ⟨f, rfl, hresponse, rfl, rfl⟩⟩
  · rintro ⟨⟨v, s, headers, failure⟩, response, rfl, hstatus, rfl, hcase⟩
    have hstatus := checkedStatus_eq_ok_iff.mpr hstatus
    rcases hcase with ⟨rfl, rfl, hbody⟩ | ⟨f, rfl, hresponse, rfl, rfl⟩
    · rw [classifyStatusAware_ok]
      exact bind_eq_ok_iff.mpr ⟨s, hstatus,
        map_eq_ok_iff.mpr ⟨v, decode_success_eq_ok_iff.mpr hbody, rfl⟩⟩
    · rw [classifyStatusAware, hresponse]
      exact bind_eq_ok_iff.mpr ⟨s, hstatus, rfl⟩

/-- A status-aware route fails if there is no response, if its status code has not three digits,
or if the body of a success cannot be decoded. The status code is checked first. -/
theorem classifyStatusAware_eq_error_iff :
    r.classifyStatusAware codec decoder outcome = .error e ↔
      (∃ f, outcome = .error f ∧ f.response? = none ∧ e = .transport f) ∨
      (∃ response, outcome.response? = some response ∧
        checkedStatus response.code = .error e) ∨
      ∃ response, outcome = .ok response ∧ (∃ s : Status, s.code = response.code) ∧
        response.isSuccess = true ∧ r.decode codec decoder response = .error e := by
  cases outcome with
  | ok response =>
    rw [classifyStatusAware_ok, bind_eq_error_iff]
    constructor
    · rintro (hstatus | ⟨s, hstatus, h⟩)
      · exact .inr (.inl ⟨response, rfl, hstatus⟩)
      · have hbody := map_eq_error_iff.mp h
        split at hbody
        · next hsuccess =>
          exact .inr (.inr ⟨response, rfl, ⟨s, checkedStatus_eq_ok_iff.mp hstatus⟩, hsuccess,
            hbody⟩)
        · cases hbody
    · rintro (⟨f, h, -⟩ | ⟨_, h, hstatus⟩ | ⟨_, h, ⟨s, hs⟩, hsuccess, hdecode⟩)
      · cases h
      · cases h
        exact .inl hstatus
      · cases h
        refine .inr ⟨s, checkedStatus_eq_ok_iff.mpr hs, map_eq_error_iff.mpr ?_⟩
        rw [if_pos hsuccess, hdecode]
  | error f =>
    rw [classifyStatusAware]
    cases hresponse : f.response? with
    | none =>
      constructor
      · intro h
        cases h
        exact .inl ⟨f, rfl, hresponse, rfl⟩
      · rintro (⟨_, h, -, rfl⟩ | ⟨_, h, -⟩ | ⟨_, h, -⟩)
        · cases h
          rfl
        · rw [Outcome.response?, hresponse] at h
          cases h
        · cases h
    | some response =>
      constructor
      · intro h
        rcases bind_eq_error_iff.mp h with hstatus | ⟨s, -, h⟩
        · exact .inr (.inl ⟨response, hresponse, hstatus⟩)
        · cases h
      · rintro (⟨_, h, hnone, -⟩ | ⟨_, h, hstatus⟩ | ⟨_, h, -⟩)
        · cases h
          rw [hresponse] at hnone
          cases hnone
        · rw [Outcome.response?, hresponse] at h
          cases h
          exact bind_eq_error_iff.mpr (.inl hstatus)
        · cases h

/-! ## The two kinds of routes on the same outcome -/

/-- The success of a plain route is a success of the status-aware one, with the same result and a
status that says so. -/
theorem classifyPlain_eq_ok_value_iff {v : Option ρ} :
    r.classifyPlain codec decoder outcome = .ok (.value v) ↔
      ∃ w, r.classifyStatusAware codec decoder outcome = .ok (.response w) ∧
        w.status.isSuccess = true ∧ w.routingError = none ∧ w.result = v := by
  constructor
  · intro h
    obtain ⟨response, _, rfl, hsuccess, hdecode, h⟩ := classifyPlain_eq_ok_iff.mp h
    cases h
    -- The code of a success has three digits, so the other route's check of it passes.
    obtain ⟨s, hs⟩ := Status.exists_of_isSuccessCode hsuccess
    have hstatus : s.isSuccess = true := by
      rw [Status.isSuccess, hs]
      exact hsuccess
    exact ⟨⟨v, s, response.headers, none⟩,
      classifyStatusAware_eq_ok_iff.mpr ⟨_, response, rfl, hs, rfl,
        .inl ⟨rfl, rfl, .inl ⟨hsuccess, hdecode⟩⟩⟩, hstatus, rfl, rfl⟩
  · rintro ⟨w, h, hstatus, hfailure, rfl⟩
    obtain ⟨_, response, hw, hcode, -, hcase⟩ := classifyStatusAware_eq_ok_iff.mp h
    cases hw
    rw [Status.isSuccess, hcode] at hstatus
    rcases hcase with ⟨rfl, -, hbody⟩ | ⟨f, -, -, hsome, -⟩
    · rcases hbody with ⟨hsuccess, hdecode⟩ | ⟨hsuccess, -⟩
      · exact classifyPlain_eq_ok_iff.mpr ⟨response, w.result, rfl, hsuccess, hdecode, rfl⟩
      · rw [Response.isSuccess, hstatus] at hsuccess
        cases hsuccess
    · rw [hfailure] at hsome
      cases hsome

/-- What a plain route turns down, the status-aware one turns down as well, or it reports the
status of the response and no result. The errors differ only for the embedded response whose code
has not three digits: the plain route passes it on unchecked. -/
theorem classifyStatusAware_of_classifyPlain_eq_error
    (h : r.classifyPlain codec decoder outcome = .error e) :
    r.classifyStatusAware codec decoder outcome = .error e ∨
      (∃ w, r.classifyStatusAware codec decoder outcome = .ok (.response w) ∧
        w.result = none ∧ e.status? = some w.status) ∨
      ∃ f response, outcome = .error f ∧ f.response? = some response ∧
        ¬ (100 ≤ response.code ∧ response.code ≤ 999) ∧
        ∃ message, r.classifyStatusAware codec decoder outcome =
          .error (.transport (.malformed message)) := by
  rcases classifyPlain_eq_error_iff.mp h with ⟨response, rfl, hsuccess, hdecode⟩ |
    ⟨response, rfl, hsuccess, ⟨s, hs, rfl⟩ | hstatus⟩ | ⟨f, rfl, rfl⟩
  -- the body of a success cannot be decoded
  · exact .inl (classifyStatusAware_eq_error_iff.mpr (.inr (.inr
      ⟨response, rfl, Status.exists_of_isSuccessCode hsuccess, hsuccess, hdecode⟩)))
  -- the server did not report success
  · exact .inr (.inl ⟨⟨none, s, response.headers, none⟩, classifyStatusAware_eq_ok_iff.mpr
      ⟨_, response, rfl, hs, rfl, .inl ⟨rfl, rfl, .inr ⟨hsuccess, rfl⟩⟩⟩, rfl, rfl⟩)
  · exact .inl (classifyStatusAware_eq_error_iff.mpr (.inr (.inl ⟨response, rfl, hstatus⟩)))
  -- the transport failed
  · cases hresponse : f.response? with
    | none => exact .inl (classifyStatusAware_eq_error_iff.mpr (.inl ⟨f, rfl, hresponse, rfl⟩))
    | some response =>
      by_cases hvalid : 100 ≤ response.code ∧ response.code ≤ 999
      · have hstatus : (RoutingError.transport f).status? = some ⟨response.code, hvalid⟩ :=
          RoutingError.status?_transport hresponse rfl
        exact .inr (.inl ⟨⟨none, ⟨response.code, hvalid⟩, response.headers, some (.transport f)⟩,
          classifyStatusAware_eq_ok_iff.mpr ⟨_, response, rfl, rfl, rfl,
            .inr ⟨f, rfl, hresponse, rfl, rfl⟩⟩, rfl, hstatus⟩)
      · exact .inr (.inr ⟨f, response, rfl, hresponse, hvalid, _,
          classifyStatusAware_eq_error_iff.mpr (.inr (.inl
            ⟨response, hresponse, checkedStatus_eq_error_iff.mpr ⟨hvalid, rfl⟩⟩))⟩)

/-- Of two routes that differ in nothing but their kind, the status-aware one simulates the plain
one on every outcome. -/
theorem classify_statusAware_simulates_plain (r : Route) (codec : Codec) (decoder : Decoder ρ)
    (outcome : Outcome) :
    (∀ v, ({ r with returnKind := .plain } : Route).classify codec decoder outcome =
        .ok (.value v) ↔
      ∃ w, ({ r with returnKind := .statusAware } : Route).classify codec decoder outcome =
          .ok (.response w) ∧
        w.status.isSuccess = true ∧ w.routingError = none ∧ w.result = v) ∧
    ∀ e, ({ r with returnKind := .plain } : Route).classify codec decoder outcome = .error e →
      ({ r with returnKind := .statusAware } : Route).classify codec decoder outcome = .error e ∨
      (∃ w, ({ r with returnKind := .statusAware } : Route).classify codec decoder outcome =
          .ok (.response w) ∧
        w.result = none ∧ e.status? = some w.status) ∨
      ∃ f response, outcome = .error f ∧ f.response? = some response ∧
        ¬ (100 ≤ response.code ∧ response.code ≤ 999) ∧
        ∃ message, ({ r with returnKind := .statusAware } : Route).classify codec decoder outcome =
          .error (.transport (.malformed message)) :=
  -- The kind of a route has no part in what either computation does.
  ⟨fun _ => classifyPlain_eq_ok_value_iff (r := r),
    fun _ => classifyStatusAware_of_classifyPlain_eq_error (r := r)⟩

end Route

end MethodRoutes

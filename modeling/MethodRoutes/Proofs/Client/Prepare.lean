import MethodRoutes.Proofs.Client.Fields

/-!
# What a client sends

A client checks its settings when it is set up, and each request before it is sent. What passes the
checks reaches the network once, and what does not pass them never does. To say so, a network can
keep a log of the requests that it has carried.

## Main definitions

* `Network.logged` — a network with a log of its requests
* `WireRequest.Carries` — a request on the wire has one field with a name, and this value in it

## Main results

* `Client.ofConfig_eq_ok_iff`, `Client.prepare_eq_ok_iff` — which settings and which requests pass
* `Client.log_send` — what reaches the network
* `Client.get?_fields_of_prepare`, `Client.forall_fields_of_prepare` — the fields of a request on the
  wire, and what holds of them if it holds of those that they come from
-/

namespace MethodRoutes

variable {σ : Type}

/-- A network that also keeps what it has carried. -/
def Network.logged (network : Network σ) : Network (σ × List WireRequest) where
  exchange wire s :=
    ((network.exchange wire s.1).1, (network.exchange wire s.1).2, s.2 ++ [wire])

/-- Among the fields of a request there is exactly one with the name, whatever its case, and it has
the value. -/
def WireRequest.Carries (wire : WireRequest) (name value : String) : Prop :=
  wire.fields.entries.filter (fun f => Call.sameName name f.1) = [(lowercase name, value)]

namespace Client

variable {config : Config} {client : Client} {request : Request} {wire : WireRequest}
  {fields : Fields} {name value : String}

/-! ## Which settings and which requests pass -/

theorem ofConfig_eq_ok_iff :
    ofConfig config = .ok client ↔
      config.validate = .ok () ∧ client.config = config ∧
        Fields.ofHeaders config.defaultHeaders = .ok client.defaults := by
  rw [ofConfig, bind_eq_ok_iff]
  refine ⟨?_, ?_⟩
  · rintro ⟨_, hvalid, h⟩
    split at h
    · cases h
    · next defaults hdefaults =>
      cases h
      exact ⟨hvalid, rfl, hdefaults⟩
  · rintro ⟨hvalid, rfl, hdefaults⟩
    exact ⟨(), hvalid, by rw [hdefaults]; rfl⟩

/-- With a root that is one, settings are refused for a default header only. -/
theorem ofConfig_eq_field_error_iff (hvalid : config.validate = .ok ()) {e : FieldError} :
    ofConfig config = .error (.field e) ↔ Fields.ofHeaders config.defaultHeaders = .error e := by
  rw [ofConfig, hvalid]
  cases Fields.ofHeaders config.defaultHeaders with
  | error e' => simp [bind, Except.bind]
  | ok defaults => simp [bind, Except.bind, pure, Except.pure]

/-- A request passes if its headers are admitted and its URL can be requested. -/
theorem prepare_eq_ok_iff :
    client.prepare request = .ok wire ↔
      ∃ fields u, Fields.ofHeaders request.headers = .ok fields ∧
        Url.parse (client.config.resolve request.url) = .ok u ∧ isRequestable u = true ∧
        wire = ⟨request.verb, u.withoutUserInfo, credentialsOf u,
          (fields.withDefaults (client.defaultsBeside (credentialsOf u))).withDefaults anything,
          request.body⟩ := by
  constructor
  · intro h
    rw [prepare] at h
    split at h
    · cases h
    · next fields hfields =>
      split at h
      · cases h
      · next u hu =>
        split at h
        · next hrequestable =>
          cases h
          exact ⟨fields, u, hfields, hu, hrequestable, rfl⟩
        · cases h
  · rintro ⟨fields, u, hfields, hu, hrequestable, rfl⟩
    simp only [prepare, hfields, hu, if_pos hrequestable]

/-! ## What reaches the network -/

/-- A header that is not admitted stops a request, whatever else there is in it. -/
theorem send_of_ofHeaders_eq_error {e : FieldError} (h : Fields.ofHeaders request.headers = .error e)
    (network : Network σ) (state : σ) :
    (client.transport network).send request state = (.error (.request e.message), state) := by
  simp only [transport, prepare, h]

/-- A request that passes reaches the network once, and any other request does not. -/
theorem log_send (network : Network σ) (state : σ) (log : List WireRequest) :
    ((client.transport network.logged).send request (state, log)).2.2 =
      log ++ (client.prepare request).toOption.toList := by
  dsimp only [transport]
  -- The log changes in an exchange only, whatever comes of it.
  cases client.prepare request with
  | error e => exact (List.append_nil log).symm
  | ok wire =>
    have hlogged : (network.logged.exchange wire (state, log)).2.2 = log ++ [wire] := rfl
    dsimp only [Except.toOption, Option.toList]
    rw [← hlogged]
    cases network.logged.exchange wire (state, log) with
    | mk answer s => cases answer <;> rfl

/-! ## The fields on the wire -/

/-- What every request has is what a header of it would become. -/
theorem ofEntries_anything : Fields.ofEntries [("accept", "*/*")] = .ok anything := rfl

/-- User name and password take the place of a default, and all other defaults stay. -/
theorem get?_defaultsBeside (client : Client) (credentials : Option (String × Option String))
    (name : String) :
    (client.defaultsBeside credentials).get? name =
      if name = "authorization" ∧ credentials.isSome then none else client.defaults.get? name := by
  rw [defaultsBeside]
  by_cases hsome : credentials.isSome = true
  · simp [hsome, Table.get?_erase]
  · simp [hsome]

/-- What is not found among the headers of a request is looked for in the settings, and then among
what every request has. -/
theorem get?_fields_of_prepare (hfields : Fields.ofHeaders request.headers = .ok fields)
    (h : client.prepare request = .ok wire) (name : String) :
    wire.fields.get? name =
      ((fields.get? name).or ((client.defaultsBeside wire.credentials).get? name)).or
        (anything.get? name) := by
  obtain ⟨fields', u, hfields', -, -, rfl⟩ := prepare_eq_ok_iff.mp h
  cases hfields.symm.trans hfields'
  rw [Fields.get?_withDefaults, Fields.get?_withDefaults]

/-- What holds of the fields of a request, of the defaults and of what every request has, holds of all
fields on the wire. -/
theorem forall_fields_of_prepare {P : String → String → Prop}
    (hfields : Fields.ofHeaders request.headers = .ok fields)
    (h : client.prepare request = .ok wire)
    (hrequest : ∀ name value, fields.get? name = some value → P name value)
    (hdefaults : ∀ name value, client.defaults.get? name = some value → P name value)
    (hanything : ∀ name value, anything.get? name = some value → P name value) :
    ∀ name value, wire.fields.get? name = some value → P name value := by
  intro name value hget
  rw [get?_fields_of_prepare hfields h, get?_defaultsBeside, Option.or_eq_some_iff,
    Option.or_eq_some_iff, Option.ite_none_left_eq_some] at hget
  rcases hget with (hget | ⟨-, -, hget⟩) | ⟨-, hget⟩
  · exact hrequest name value hget
  · exact hdefaults name value hget
  · exact hanything name value hget

/-- Fields that are found are carried once. -/
theorem carries_iff (hconfig : ofConfig config = .ok client)
    (h : client.prepare request = .ok wire) :
    wire.Carries name value ↔ wire.fields.get? (lowercase name) = some value := by
  obtain ⟨-, -, hdefaults⟩ := ofConfig_eq_ok_iff.mp hconfig
  obtain ⟨fields, u, hfields, -⟩ := prepare_eq_ok_iff.mp h
  have hlower : wire.fields.IsLower :=
    forall_fields_of_prepare hfields h (Fields.isLower_of_ofEntries hfields)
      (Fields.isLower_of_ofEntries hdefaults) (Fields.isLower_of_ofEntries ofEntries_anything)
  rw [WireRequest.Carries, Fields.filter_sameName hlower]
  cases Table.get? _ (lowercase name) <;> simp

end Client

end MethodRoutes

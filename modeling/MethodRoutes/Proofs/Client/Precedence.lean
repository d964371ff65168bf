import MethodRoutes.Proofs.Client.Walks
import MethodRoutes.Proofs.Route.Headers

/-!
# Whose headers are sent

The headers of a request come from its provider, from the codec, and from the settings of the
client. They meet in two places: an assembly adds the content type of the codec to the headers of
the provider, and a client adds the defaults to what it is given. Names that differ in case only are
different for the tables that hold the headers, but in neither place may such a difference bring in
a second header, or one that is overridden. This file shows that every name is sent once, with the
value of whoever comes first.

## Main definitions

* `Headers.Gives` — headers have a value for a name, whatever its case
* `Headers.IsAdmissible` — headers that are admitted, with names that differ in more than case

## Main results

* `Headers.gives_announce_iff` — what headers give after a content type has been announced
* `Client.carries_of_gives`, `Client.carries_of_default` — whose value is carried
* `Client.carries_by_precedence` — the fields of a request that is sent, for all names and cases
-/

namespace MethodRoutes

/-- Headers have this value for a name, in whatever case they write it. -/
def Headers.Gives (headers : Headers) (name value : String) : Prop :=
  ∃ written, Call.sameName name written = true ∧ headers.get? written = some value

/-- Headers that are all admitted on the wire, no two of them under names that differ at most in
case. -/
@[mk_iff]
structure Headers.IsAdmissible (headers : Headers) : Prop where
  /-- Each of them can be sent. -/
  sendable : ∀ e ∈ headers.entries, IsSendable e
  /-- No name occurs in two cases. -/
  distinct : (headers.entries.map fun e => lowercase e.1).Nodup

instance (headers : Headers) : Decidable headers.IsAdmissible :=
  decidable_of_iff _ (headers.isAdmissible_iff).symm

namespace Headers

variable {headers : Headers} {fields : Fields} {contentType name value : String}

theorem gives_iff :
    headers.Gives name value ↔
      ∃ e ∈ headers.entries, lowercase e.1 = lowercase name ∧ e.2 = value := by
  constructor
  · rintro ⟨written, hname, hget⟩
    rw [Call.sameName_iff] at hname
    exact ⟨(written, value), (headers.mem_entries_iff written value).mpr hget, hname.symm, rfl⟩
  · rintro ⟨⟨written, value⟩, hmem, hname, rfl⟩
    exact ⟨written, Call.sameName_iff.mpr hname.symm, (headers.mem_entries_iff _ _).mp hmem⟩

/-- Admissible headers become fields. -/
theorem IsAdmissible.exists_fields (h : headers.IsAdmissible) :
    ∃ fields, Fields.ofHeaders headers = .ok fields :=
  Fields.exists_ofEntries_iff.mpr h.sendable

/-- The fields that admissible headers become are what these give. -/
theorem IsAdmissible.get?_eq_some_iff (h : headers.IsAdmissible)
    (hfields : Fields.ofHeaders headers = .ok fields) :
    fields.get? (lowercase name) = some value ↔ headers.Gives name value := by
  have hunambiguous := isUnambiguous_of_nodup h.distinct
  rw [Fields.get?_eq_some_iff_of_isUnambiguous hfields hunambiguous, gives_iff]

theorem IsAdmissible.get?_eq_none_iff (h : headers.IsAdmissible)
    (hfields : Fields.ofHeaders headers = .ok fields) :
    fields.get? (lowercase name) = none ↔ ∀ value, ¬ headers.Gives name value := by
  simp only [Option.eq_none_iff_forall_ne_some, ne_eq, h.get?_eq_some_iff hfields]

/-! ## Announcing a content type -/

theorem isUnannounced_iff :
    Call.IsUnannounced headers ↔ ∀ value, ¬ headers.Gives "content-type" value := by
  constructor
  · rintro h value ⟨written, hsame, hget⟩
    have hmem : written ∈ headers.keys := by simp [Table.mem_keys_iff, hget]
    rw [h written hmem] at hsame
    cases hsame
  · intro h written hmem
    obtain ⟨value, hget⟩ := Option.isSome_iff_exists.mp ((headers.mem_keys_iff written).mp hmem)
    by_contra hsame
    exact h value ⟨written, by simpa using hsame, hget⟩

/-- The content type that is announced is given unless there was one, and everything else is given
as before. -/
theorem gives_announce_iff :
    (Call.announce headers contentType).Gives name value ↔
      headers.Gives name value ∨
        Call.sameName name "content-type" = true ∧ value = contentType ∧
          ∀ other, ¬ headers.Gives "content-type" other := by
  simp only [Gives, Call.get?_announce_eq_some_iff, isUnannounced_iff]
  -- What is announced is written in lowercase, and may be looked for in any case.
  constructor
  · rintro ⟨written, hsame, hget | ⟨rfl, rfl, hnone⟩⟩
    · exact .inl ⟨written, hsame, hget⟩
    · exact .inr ⟨hsame, rfl, hnone⟩
  · rintro (⟨written, hsame, hget⟩ | ⟨hsame, rfl, hnone⟩)
    · exact ⟨written, hsame, .inl hget⟩
    · exact ⟨"content-type", hsame, .inr ⟨rfl, rfl, hnone⟩⟩

end Headers

/-! ## The content type of an assembled request -/

namespace Call

variable {call : Call} {codec : Codec} {request : Request} {i : Invocations} {contentType : String}

/-- The headers of a request with a body are those of the provider, with the content type announced
among them. -/
theorem headers_of_assemble (h : (call.assemble codec i).1 = .ok request)
    (hbody : request.body.isSome) :
    request.headers = announce (call.headers i).1 codec.contentType := by
  rw [assemble_fst, attachBody_eq_ok_iff] at h
  rcases h with ⟨-, rfl⟩ | ⟨v, bytes, -, -, -, rfl⟩
  · -- Nothing is attached, so there is no body.
    cases hbody
  · rfl

/-- A request with a body has the content type of the provider, and without one that of the
codec. -/
theorem gives_contentType_iff (h : (call.assemble codec i).1 = .ok request)
    (hbody : request.body.isSome) :
    request.headers.Gives "content-type" contentType ↔
      (call.headers i).1.Gives "content-type" contentType ∨
        contentType = codec.contentType ∧
          ∀ other, ¬ (call.headers i).1.Gives "content-type" other := by
  have hsame : sameName "content-type" "content-type" = true := sameName_iff.mpr rfl
  rw [headers_of_assemble h hbody, Headers.gives_announce_iff]
  simp [hsame]

end Call

/-! ## Requests on the wire -/

namespace Client

variable {config : Config} {client : Client} {request : Request} {wire : WireRequest}
  {name value : String}

/-- If all default headers are admitted, then only the root can stand against settings. -/
theorem exists_ofConfig_iff (h : config.defaultHeaders.IsAdmissible) :
    (∃ client, ofConfig config = .ok client) ↔ config.validate = .ok () := by
  simp only [ofConfig_eq_ok_iff]
  constructor
  · rintro ⟨client, hvalid, -⟩
    exact hvalid
  · intro hvalid
    obtain ⟨defaults, hdefaults⟩ := h.exists_fields
    exact ⟨⟨config, defaults⟩, hvalid, rfl, hdefaults⟩

/-- If all headers are admitted, then only the URL can stand against a request. -/
theorem exists_prepare_iff (h : request.headers.IsAdmissible) :
    (∃ wire, client.prepare request = .ok wire) ↔
      ∃ u, Url.parse (client.config.resolve request.url) = .ok u ∧ isRequestable u = true := by
  simp only [prepare_eq_ok_iff]
  constructor
  · rintro ⟨wire, fields, u, -, hu, hrequestable, -⟩
    exact ⟨u, hu, hrequestable⟩
  · rintro ⟨u, hu, hrequestable⟩
    obtain ⟨fields, hfields⟩ := h.exists_fields
    exact ⟨_, fields, u, hfields, hu, hrequestable, rfl⟩

/-- What the request gives is carried. -/
theorem carries_of_gives (hconfig : ofConfig config = .ok client)
    (hheaders : request.headers.IsAdmissible) (hprepare : client.prepare request = .ok wire)
    (hname : request.headers.Gives name value) : wire.Carries name value := by
  obtain ⟨fields, hfields⟩ := hheaders.exists_fields
  have hget : fields.get? (lowercase name) = some value :=
    (hheaders.get?_eq_some_iff hfields).mpr hname
  rw [carries_iff hconfig hprepare, get?_fields_of_prepare hfields hprepare, hget,
    Option.some_or, Option.some_or]

/-- What the settings give is carried, if the request does not give anything for the name, and the
URL neither. -/
theorem carries_of_default (hconfig : ofConfig config = .ok client)
    (hdefaults : config.defaultHeaders.IsAdmissible) (hheaders : request.headers.IsAdmissible)
    (hprepare : client.prepare request = .ok wire) (hname : config.defaultHeaders.Gives name value)
    (hnone : ∀ other, ¬ request.headers.Gives name other)
    (hurl : Call.sameName name "authorization" = true → wire.credentials = none) :
    wire.Carries name value := by
  obtain ⟨fields, hfields⟩ := hheaders.exists_fields
  obtain ⟨-, -, hdefault⟩ := ofConfig_eq_ok_iff.mp hconfig
  have habsent : fields.get? (lowercase name) = none :=
    (hheaders.get?_eq_none_iff hfields).mpr hnone
  have hget : client.defaults.get? (lowercase name) = some value :=
    (hdefaults.get?_eq_some_iff hdefault).mpr hname
  -- Only user name and password can keep a default out, and the URL has none that would.
  have hkept : (client.defaultsBeside wire.credentials).get? (lowercase name) = some value := by
    rw [get?_defaultsBeside, if_neg, hget]
    rintro ⟨hauthorization, hsome⟩
    have hsame : Call.sameName name "authorization" = true := by
      rw [Call.sameName_iff, hauthorization]
      decide
    rw [hurl hsame] at hsome
    cases hsome
  rw [carries_iff hconfig hprepare, get?_fields_of_prepare hfields hprepare, habsent, hkept,
    Option.none_or, Option.some_or]

/-- Whose headers are sent.

Let the headers of a request and the default headers be admissible, so that nothing but the root
and the URL can stand against the request. If it is sent, then it is sent once. What it gives itself
is carried exactly once, and so is a default that it gives nothing for, in whatever case the names
are written. (User name and password of a URL make a field of their own; a default does not replace
it.) A request that got a body from an assembly carries the content type that the provider named, in
any case, and else that of the codec. -/
theorem carries_by_precedence (hdefaults : config.defaultHeaders.IsAdmissible)
    (hheaders : request.headers.IsAdmissible) :
    ((∃ client, ofConfig config = .ok client) ↔ config.validate = .ok ()) ∧
    ∀ client, ofConfig config = .ok client →
      ((∃ wire, client.prepare request = .ok wire) ↔
        ∃ u, Url.parse (config.resolve request.url) = .ok u ∧ isRequestable u = true) ∧
      ∀ wire, client.prepare request = .ok wire →
        (∀ (σ : Type) (network : Network σ) (state : σ) (log : List WireRequest),
          ((client.transport network.logged).send request (state, log)).2.2 = log ++ [wire]) ∧
        (∀ name value, request.headers.Gives name value → wire.Carries name value) ∧
        (∀ name value, config.defaultHeaders.Gives name value →
          (∀ other, ¬ request.headers.Gives name other) →
          (Call.sameName name "authorization" = true → wire.credentials = none) →
            wire.Carries name value) ∧
        ∀ (call : Call) (codec : Codec) (i : Invocations),
          (call.assemble codec i).1 = .ok request → request.body.isSome →
            (∀ contentType, (call.headers i).1.Gives "content-type" contentType →
              wire.Carries "content-type" contentType) ∧
            ((∀ contentType, ¬ (call.headers i).1.Gives "content-type" contentType) →
              wire.Carries "content-type" codec.contentType) := by
  refine ⟨exists_ofConfig_iff hdefaults, fun client hconfig => ?_⟩
  have hsettings : client.config = config := (ofConfig_eq_ok_iff.mp hconfig).2.1
  refine ⟨hsettings ▸ exists_prepare_iff hheaders, fun wire hprepare => ?_⟩
  -- The content type of an assembled request is one of its headers, so it comes first as they do.
  have hgives : ∀ name value, request.headers.Gives name value → wire.Carries name value :=
    fun _ _ => carries_of_gives hconfig hheaders hprepare
  refine ⟨fun σ network state log => ?_, hgives, fun name value hname hnone hurl => ?_,
    fun call codec i hassemble hbody => ⟨fun contentType hprovided => ?_, fun hnone => ?_⟩⟩
  · rw [log_send, hprepare]
    rfl
  · exact carries_of_default hconfig hdefaults hheaders hprepare hname hnone hurl
  · exact hgives _ _ ((Call.gives_contentType_iff hassemble hbody).mpr (.inl hprovided))
  · exact hgives _ _ ((Call.gives_contentType_iff hassemble hbody).mpr (.inr ⟨rfl, hnone⟩))

namespace Sample

/-- Settings with a content type and a tenant. -/
def branded : Config :=
  (Config.default.withDefaultHeader "Content-Type" "text/html").withDefaultHeader "X-Tenant" "none"

/-- A call that sends a number. Its provider names a tenant when it is asked first, and then a
content type. -/
def saving : Call :=
  ⟨{  signature := ⟨"save(Item)"⟩
      destination := ⟨[.literal "http://h/items"]⟩
      verb := .post
      bodyIndex := some 0
      provider := some (.cycle .empty
        [Table.empty.insert "x-tenant" "acme", Table.empty.insert "CONTENT-TYPE" "text/plain"])
      resultType := .unit
      returnKind := .plain
      parameters := [(Parameter.ofType "item" "Item").asBody]
      accessors := .empty }, [.int 1]⟩

end Sample

/-- The tenant of the provider is sent, and its content type, and otherwise those of the settings
and of the codec. -/
theorem carries_by_precedence_sample :
    ∃ client, ofConfig Sample.branded = .ok client ∧
      (∃ request wire, (Sample.saving.assemble .json .none).1 = .ok request ∧
        client.prepare request = .ok wire ∧ wire.Carries "X-TENANT" "acme" ∧
          wire.Carries "content-type" "application/json") ∧
      ∃ request wire,
        (Sample.saving.assemble .json ⟨[.provider ⟨"save(Item)"⟩]⟩).1 = .ok request ∧
          client.prepare request = .ok wire ∧ wire.Carries "x-tenant" "none" ∧
            wire.Carries "content-type" "text/plain" := by
  have hdefaults : Sample.branded.defaultHeaders.IsAdmissible := by decide
  let client : Client :=
    ⟨Sample.branded, (Table.empty.insert "content-type" "text/html").insert "x-tenant" "none"⟩
  have hconfig : ofConfig Sample.branded = .ok client := rfl
  let saved (headers : Headers) : Request :=
    ⟨.post, "http://h/items", headers, some (Bytes.ofText "1"), .unit⟩
  refine ⟨client, hconfig, ?_, ?_⟩
  · -- The provider names no content type, so that of the codec is announced.
    let request := saved
      ((Table.empty.insert "x-tenant" "acme").insert "content-type" "application/json")
    have hassemble : (Sample.saving.assemble .json .none).1 = .ok request := rfl
    obtain ⟨wire, hprepare⟩ : ∃ wire, client.prepare request = .ok wire :=
      exists_eq_ok_iff.mpr (by decide +kernel)
    have hnone : ∀ e ∈ (Sample.saving.headers .none).1.entries,
        lowercase e.1 ≠ lowercase "content-type" := by decide
    obtain ⟨-, hgives, -, hassembled⟩ :=
      ((carries_by_precedence hdefaults (by decide)).2 client hconfig).2 wire hprepare
    obtain ⟨-, htype⟩ := hassembled Sample.saving .json .none hassemble rfl
    refine ⟨request, wire, hassemble, hprepare, hgives _ _ ⟨"x-tenant", by decide, by decide⟩,
      htype fun contentType hprovided => ?_⟩
    obtain ⟨e, he, hname, -⟩ := Headers.gives_iff.mp hprovided
    exact hnone e he hname
  · -- The provider names a content type, and the tenant of the settings is left.
    let request := saved (Table.empty.insert "CONTENT-TYPE" "text/plain")
    have hassemble : (Sample.saving.assemble .json ⟨[.provider ⟨"save(Item)"⟩]⟩).1 =
        .ok request := rfl
    obtain ⟨wire, hprepare⟩ : ∃ wire, client.prepare request = .ok wire :=
      exists_eq_ok_iff.mpr (by decide +kernel)
    have hnone : ∀ e ∈ request.headers.entries, lowercase e.1 ≠ lowercase "x-tenant" := by decide
    obtain ⟨-, -, hdefault, hassembled⟩ :=
      ((carries_by_precedence hdefaults (by decide)).2 client hconfig).2 wire hprepare
    obtain ⟨htype, -⟩ := hassembled Sample.saving .json _ hassemble rfl
    refine ⟨request, wire, hassemble, hprepare,
      hdefault _ _ ⟨"X-Tenant", by decide, by decide⟩ (fun other hother => ?_)
        fun hsame => absurd hsame (by decide),
      htype _ ⟨"CONTENT-TYPE", by decide, by decide⟩⟩
    obtain ⟨e, he, hname, -⟩ := Headers.gives_iff.mp hother
    exact hnone e he hname

end Client

end MethodRoutes

import MethodRoutes.Proofs.Client.Prepare
import MethodRoutes.Proofs.Text.Utf8

/-!
# Headers that stop a request

Names and values of headers may come from anywhere. A value with a line break in it would be read as
two headers by whoever receives it, so a client looks at every byte before it sends anything: one
header that must not be sent stops the request, and one default header the client itself. This file
says which headers these are by the bytes that are written, and what becomes of the others.

A header is malformed for its name or for its value. The checks go through the characters, and the
bytes of a character beyond the ASCII range lie above this range, so there they can do no harm.

## Main definitions

* `IsToken`, `IsControlByte`, `IsMalformed` — headers that must not be sent
* `Headers.AdmitsTokens` — no name is too long for that of a field
* `IsOneLine`, `Fields.IsUnbroken` — texts and fields without line breaks

## Main results

* `isFieldName_iff`, `isFieldValue_iff` — what the checks look for
* `IsMalformed.not_isSendable`, `Headers.AdmitsTokens.isSendable_iff` — the headers that pass
* `Fields.isUnbroken_of_ofEntries`, `Client.isUnbroken_of_prepare` — nothing on the wire has a line
  break
* `Client.stops_at_malformed` — one malformed header stops all of them
-/

namespace MethodRoutes

/-- The name is a token: it is not empty and has letters, digits and some marks only. -/
def IsToken (name : String) : Prop :=
  name ≠ "" ∧ ∀ c ∈ name.toList, c.isAlphanum = true ∨ c ∈ "!#$%&'*+-.^_`|~".toList

/-- A control character other than a tab. -/
def IsControlByte (b : UInt8) : Prop := (b < 0x20 ∧ b ≠ 0x09) ∨ b = 0x7F

instance (b : UInt8) : Decidable (IsControlByte b) :=
  inferInstanceAs (Decidable ((b < 0x20 ∧ b ≠ 0x09) ∨ b = 0x7F))

theorem isToken_iff {name : String} : Verb.isToken name = true ↔ IsToken name := by
  simp [Verb.isToken, Verb.isTokenChar, IsToken]

instance (name : String) : Decidable (IsToken name) := decidable_of_iff _ isToken_iff

theorem isFieldName_iff {name : String} :
    isFieldName name = true ↔ IsToken name ∧ name.length < 0x10000 := by
  rw [isFieldName, Bool.and_eq_true, isToken_iff, decide_eq_true_iff]

theorem IsControlByte.lt {b : UInt8} (h : IsControlByte b) : b < 0x80 := by
  rcases h with ⟨hlt, -⟩ | rfl
  · exact UInt8.lt_trans hlt (by decide)
  · decide

theorem isFieldValue_iff {value : String} :
    isFieldValue value = true ↔ ∀ b ∈ Bytes.ofText value, ¬ IsControlByte b := by
  -- On the ASCII range, characters and bytes are checked alike.
  have hascii : ∀ n < 0x80, IsControlByte (UInt8.ofNat n) ↔
      ¬ (Char.ofNat n = '\t' ∨ 0x20 ≤ (Char.ofNat n).toNat ∧ (Char.ofNat n).toNat ≠ 0x7F) := by
    decide
  simp only [isFieldValue, List.all_eq_true, Bool.or_eq_true, Bool.and_eq_true, decide_eq_true_iff]
  constructor
  · intro hvalue b hb hcontrol
    -- A control byte is a character of its own, and this one passed the check.
    have hchar := (Bytes.mem_ofText_iff_of_lt hcontrol.lt).mp hb
    have hlt : b.toNat < 0x80 := UInt8.lt_iff_toNat_lt.mp hcontrol.lt
    rw [← UInt8.ofNat_toNat (x := b), hascii _ hlt] at hcontrol
    exact hcontrol (hvalue _ hchar)
  · intro hvalue c hc
    -- Only a character of the ASCII range can fail the check, and its byte would be a control byte.
    by_contra hcheck
    have hlt : c.toNat < 0x80 := by
      by_contra hle
      exact hcheck (.inr ⟨by omega, by omega⟩)
    have hcontrol : IsControlByte (UInt8.ofNat c.toNat) := by
      rw [hascii _ hlt, Char.ofNat_toNat]
      exact hcheck
    refine hvalue _ ((Bytes.mem_ofText_iff_of_lt hcontrol.lt).mpr ?_) hcontrol
    rw [UInt8.toNat_ofNat_of_lt' (Nat.lt_trans hlt (by decide)), Char.ofNat_toNat]
    exact hc

/-- A header that must not be sent: its name is no token, or its value has a control character other
than a tab. -/
def IsMalformed (header : String × String) : Prop :=
  ¬ IsToken header.1 ∨ ∃ b ∈ Bytes.ofText header.2, IsControlByte b

theorem isMalformed_iff {header : String × String} :
    IsMalformed header ↔ ¬ (Verb.isToken header.1 = true ∧ isFieldValue header.2 = true) := by
  rw [isToken_iff, isFieldValue_iff, IsMalformed, not_and_or]
  simp only [not_forall, not_not, exists_prop]

instance (header : String × String) : Decidable (IsMalformed header) :=
  decidable_of_iff _ isMalformed_iff.symm

/-- All tokens among the names are admitted as names of fields. No length is too great for a token, and
for the name of a field `2 ^ 16` characters are. -/
def Headers.AdmitsTokens (headers : Headers) : Prop :=
  ∀ e ∈ headers.entries, IsToken e.1 → isFieldName e.1 = true

instance (headers : Headers) : Decidable headers.AdmitsTokens :=
  inferInstanceAs (Decidable (∀ e ∈ headers.entries, IsToken e.1 → isFieldName e.1 = true))

theorem IsMalformed.not_isSendable {header : String × String} (h : IsMalformed header) :
    ¬ IsSendable header := by
  intro hsendable
  rcases h with hname | ⟨b, hb, hcontrol⟩
  · exact hname (isFieldName_iff.mp hsendable.name).1
  · exact isFieldValue_iff.mp hsendable.value b hb hcontrol

theorem Headers.AdmitsTokens.isSendable_iff {headers : Headers} {header : String × String}
    (h : headers.AdmitsTokens) (hmem : header ∈ headers.entries) :
    IsSendable header ↔ ¬ IsMalformed header := by
  refine ⟨fun hsendable hmalformed => hmalformed.not_isSendable hsendable, fun hwell => ?_⟩
  rw [IsMalformed, not_or, not_not] at hwell
  refine ⟨h header hmem hwell.1, isFieldValue_iff.mpr fun b hb hcontrol => ?_⟩
  exact hwell.2 ⟨b, hb, hcontrol⟩

/-! ## Line breaks -/

/-- No byte of the text ends a line. -/
def IsOneLine (text : String) : Prop := ∀ b ∈ Bytes.ofText text, b ≠ 0x0D ∧ b ≠ 0x0A

theorem isOneLine_iff {text : String} :
    IsOneLine text ↔ '\r' ∉ text.toList ∧ '\n' ∉ text.toList := by
  have hreturn : 0x0D ∈ Bytes.ofText text ↔ '\r' ∈ text.toList :=
    Bytes.mem_ofText_iff_of_lt (by decide)
  have hfeed : 0x0A ∈ Bytes.ofText text ↔ '\n' ∈ text.toList :=
    Bytes.mem_ofText_iff_of_lt (by decide)
  rw [← hreturn, ← hfeed, IsOneLine]
  constructor
  · exact fun h => ⟨fun hb => (h _ hb).1 rfl, fun hb => (h _ hb).2 rfl⟩
  · rintro ⟨hr, hn⟩ b hb
    exact ⟨fun heq => hr (heq ▸ hb), fun heq => hn (heq ▸ hb)⟩

theorem isOneLine_of_isFieldValue {value : String} (h : isFieldValue value = true) :
    IsOneLine value := by
  intro b hb
  have hcontrol := isFieldValue_iff.mp h b hb
  constructor
  · rintro rfl
    exact hcontrol (by decide)
  · rintro rfl
    exact hcontrol (by decide)

theorem IsToken.isOneLine {name : String} (h : IsToken name) : IsOneLine name := by
  rw [isOneLine_iff]
  constructor
  · intro hmem
    exact absurd (h.2 _ hmem) (by decide)
  · intro hmem
    exact absurd (h.2 _ hmem) (by decide)

/-- A token stays one in lowercase. -/
theorem IsToken.lowercase {name : String} (h : IsToken name) : IsToken (lowercase name) := by
  obtain ⟨hne, hchars⟩ := h
  refine ⟨fun hnil => hne ?_, fun d hd => ?_⟩
  · simpa [MethodRoutes.lowercase] using hnil
  · rw [MethodRoutes.lowercase, String.toList_ofList] at hd
    obtain ⟨c, hc, rfl⟩ := List.mem_map.mp hd
    -- Only capital letters change, and they become letters.
    by_cases hupper : c.isUpper = true
    · left
      change (c.toLower.isUpper || c.toLower.isLower || c.toLower.isDigit) = true
      rw [(isLower_toLower hupper).1, Bool.or_true, Bool.true_or]
    · rw [toLower_of_not_isUpper hupper]
      exact hchars c hc

/-- No name and no value has a line break. -/
def Fields.IsUnbroken (fields : Fields) : Prop :=
  ∀ name value, fields.get? name = some value → IsOneLine name ∧ IsOneLine value

theorem Fields.isUnbroken_of_ofEntries {entries : List (String × String)} {fields : Fields}
    (h : ofEntries entries = .ok fields) : fields.IsUnbroken := by
  intro name value hget
  obtain ⟨e, he, rfl, rfl⟩ := exists_mem_of_get? h hget
  have hsendable := (ofEntries_eq_ok_iff.mp h).1 e he
  have htoken := (isFieldName_iff.mp hsendable.name).1
  exact ⟨htoken.lowercase.isOneLine, isOneLine_of_isFieldValue hsendable.value⟩

namespace Client

variable {config : Config} {client : Client} {request : Request} {wire : WireRequest}

/-- Whatever a client sends has no line break in its fields. -/
theorem isUnbroken_of_prepare (hconfig : ofConfig config = .ok client)
    (h : client.prepare request = .ok wire) : wire.fields.IsUnbroken := by
  obtain ⟨-, -, hdefaults⟩ := ofConfig_eq_ok_iff.mp hconfig
  obtain ⟨fields, u, hfields, -⟩ := prepare_eq_ok_iff.mp h
  exact forall_fields_of_prepare hfields h (Fields.isUnbroken_of_ofEntries hfields)
    (Fields.isUnbroken_of_ofEntries hdefaults) (Fields.isUnbroken_of_ofEntries ofEntries_anything)

/-- One malformed header stops a request. -/
theorem send_of_isMalformed {header : String × String} (hmem : header ∈ request.headers.entries)
    (h : IsMalformed header) :
    ∃ e : FieldError, ∀ (σ : Type) (network : Network σ) (state : σ),
      (client.transport network).send request state = (.error (.request e.message), state) := by
  obtain ⟨e, he⟩ := Fields.exists_ofEntries_eq_error_iff.mpr ⟨header, hmem, h.not_isSendable⟩
  exact ⟨e, fun σ network state => send_of_ofHeaders_eq_error he network state⟩

end Client

namespace Headers.AdmitsTokens

variable {headers : Headers}

/-- Without malformed headers there are fields, with a value for each name that was given one. -/
theorem exists_fields (h : headers.AdmitsTokens)
    (hwell : ∀ e ∈ headers.entries, ¬ IsMalformed e) :
    ∃ fields, Fields.ofHeaders headers = .ok fields ∧
      ∀ e ∈ headers.entries, ∃ e' ∈ headers.entries,
        lowercase e'.1 = lowercase e.1 ∧ fields.get? (lowercase e.1) = some e'.2 := by
  obtain ⟨fields, hfields⟩ :=
    Fields.exists_ofEntries_iff.mpr fun e he => (h.isSendable_iff he).mpr (hwell e he)
  refine ⟨fields, hfields, fun e he => ?_⟩
  obtain ⟨value, hget⟩ := Fields.exists_get?_of_mem hfields he
  obtain ⟨e', he', hname, rfl⟩ := Fields.exists_mem_of_get? hfields hget
  exact ⟨e', he', hname, hget⟩

/-- Headers are refused exactly if one of them is malformed. -/
theorem exists_error_iff (h : headers.AdmitsTokens) :
    (∃ e, Fields.ofHeaders headers = .error e) ↔ ∃ e ∈ headers.entries, IsMalformed e := by
  rw [Fields.ofHeaders, Fields.exists_ofEntries_eq_error_iff]
  constructor
  · rintro ⟨e, he, hnot⟩
    exact ⟨e, he, not_not.mp ((h.isSendable_iff he).not.mp hnot)⟩
  · rintro ⟨e, he, hmalformed⟩
    exact ⟨e, he, hmalformed.not_isSendable⟩

end Headers.AdmitsTokens

namespace Client

/-- One malformed header stops all of them.

If a header of a request is malformed, then sending the request fails with a complaint about a name or
a value, whatever else there is in it, and no server receives anything. If none is and no name is too
long, then the headers become fields, which have for every name one of the values that were given for
it, and no line break anywhere. In the same way settings with a valid root are refused for a name or a
value exactly if a default header is malformed. So no request on the wire has a line break in a name or
a value. -/
theorem stops_at_malformed :
    (∀ (client : Client) (request : Request), (∃ e ∈ request.headers.entries, IsMalformed e) →
      ∃ e : FieldError, ∀ (σ : Type) (network : Network σ) (state : σ) (log : List WireRequest),
        (client.transport network.logged).send request (state, log) =
          (.error (.request e.message), state, log)) ∧
    (∀ headers : Headers, headers.AdmitsTokens → (∀ e ∈ headers.entries, ¬ IsMalformed e) →
      ∃ fields, Fields.ofHeaders headers = .ok fields ∧
        (∀ e ∈ headers.entries, ∃ e' ∈ headers.entries,
          lowercase e'.1 = lowercase e.1 ∧ fields.get? (lowercase e.1) = some e'.2) ∧
        fields.IsUnbroken) ∧
    (∀ config : Config, config.validate = .ok () → config.defaultHeaders.AdmitsTokens →
      ((ofConfig config = .error (.field .invalidName) ∨
          ofConfig config = .error (.field .invalidValue)) ↔
        ∃ e ∈ config.defaultHeaders.entries, IsMalformed e)) ∧
    ∀ config client request wire, ofConfig config = .ok client →
      client.prepare request = .ok wire → wire.fields.IsUnbroken := by
  refine ⟨?_, fun headers hadmits hwell => ?_, fun config hvalid hadmits => ?_,
    fun config client request wire => isUnbroken_of_prepare⟩
  · rintro client request ⟨header, hmem, hmalformed⟩
    obtain ⟨e, hsend⟩ := @send_of_isMalformed client request header hmem hmalformed
    exact ⟨e, fun σ network state log => hsend _ network.logged (state, log)⟩
  · obtain ⟨fields, hfields, hvalues⟩ := hadmits.exists_fields hwell
    exact ⟨fields, hfields, hvalues, Fields.isUnbroken_of_ofEntries hfields⟩
  · rw [ofConfig_eq_field_error_iff hvalid, ofConfig_eq_field_error_iff hvalid,
      ← hadmits.exists_error_iff]
    constructor
    · rintro (h | h)
      · exact ⟨_, h⟩
      · exact ⟨_, h⟩
    · -- There are no other errors than these two.
      rintro ⟨e, he⟩
      cases e with
      | invalidName => exact .inl he
      | invalidValue => exact .inr he

/-- A value with a line break stops a request beside a sound header, and a name with a blank stops a
client. One name in two cases does not. -/
theorem stops_at_malformed_sample :
    let injected : Headers := (Table.empty.insert "x-a" "1").insert "x-name" "a\r\nx-admin: 1"
    let cased : Headers := (Table.empty.insert "X-A" "1").insert "x-a" "\té"
    let request (headers : Headers) : Request := { Request.bare .get "http://h/a" with headers }
    let client : Client := ⟨.default, .empty⟩
    (∃ e : FieldError, (client.transport Network.unreachable.logged).send (request injected)
      (7, []) = (.error (.request e.message), 7, [])) ∧
      (∃ fields, Fields.ofHeaders cased = .ok fields ∧ fields.IsUnbroken ∧
        ∃ e ∈ cased.entries, fields.get? "x-a" = some e.2) ∧
      (ofConfig (Config.default.withDefaultHeader "bad header" "x") = .error (.field .invalidName) ∨
        ofConfig (Config.default.withDefaultHeader "bad header" "x") =
          .error (.field .invalidValue)) ∧
      ∃ wire, client.prepare (request cased) = .ok wire ∧ wire.fields.IsUnbroken := by
  intro injected cased request client
  obtain ⟨hrequest, hheaders, hsettings, hwire⟩ := stops_at_malformed
  obtain ⟨e, hsend⟩ := hrequest client (request injected)
    ⟨("x-name", "a\r\nx-admin: 1"), by decide, by decide⟩
  obtain ⟨fields, hfields, hvalues, hunbroken⟩ := hheaders cased (by decide) (by decide)
  obtain ⟨e', he', -, hget⟩ := hvalues ("X-A", "1") (by decide)
  obtain ⟨wire, hprepare⟩ : ∃ wire, client.prepare (request cased) = .ok wire :=
    exists_eq_ok_iff.mpr (by decide +kernel)
  exact ⟨⟨e, hsend Nat .unreachable 7 []⟩, ⟨fields, hfields, hunbroken, e', he', hget⟩,
    (hsettings _ rfl (by decide)).mpr ⟨("bad header", "x"), by decide, by decide⟩,
    wire, hprepare, hwire .default client _ wire rfl hprepare⟩

end Client

end MethodRoutes

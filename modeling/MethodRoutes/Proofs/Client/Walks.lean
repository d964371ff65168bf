import Mathlib.Data.List.Nodup
import Mathlib.Data.List.Perm.Basic
import MethodRoutes.Proofs.Client.Prepare

/-!
# The order in which headers are visited

A table of headers is visited in some order when it becomes fields, and nothing is said about which
order that is. Whether the headers are admitted does not depend on it. What becomes of them does: of
two headers whose names differ in case only, the one that is visited last stays. So the fields are
the same for all orders exactly if such headers have the same value.

## Main definitions

* `IsUnambiguous` — headers whose names differ at most in case have one value

## Main results

* `Fields.exists_ofEntries_of_perm` — whether headers are admitted does not depend on the order
* `Fields.get?_eq_some_iff_of_isUnambiguous` — the fields of unambiguous headers
* `Fields.walks_agree_iff` — when all orders lead to the same fields
* `Client.fields_of_walks` — what the order decides, for headers and for the requests of a client
-/

namespace MethodRoutes

/-- Headers whose names differ at most in case have one value. -/
def IsUnambiguous (entries : List (String × String)) : Prop :=
  ∀ e ∈ entries, ∀ e' ∈ entries, lowercase e.1 = lowercase e'.1 → e.2 = e'.2

instance (entries : List (String × String)) : Decidable (IsUnambiguous entries) :=
  inferInstanceAs (Decidable (∀ e ∈ entries, ∀ e' ∈ entries,
    lowercase e.1 = lowercase e'.1 → e.2 = e'.2))

theorem isUnambiguous_of_nodup {entries : List (String × String)}
    (h : (entries.map fun e => lowercase e.1).Nodup) : IsUnambiguous entries := by
  intro e he e' he' hname
  rw [List.inj_on_of_nodup_map h he he' hname]

theorem IsUnambiguous.perm {entries walk : List (String × String)} (h : IsUnambiguous entries)
    (hwalk : walk.Perm entries) : IsUnambiguous walk :=
  fun e he e' he' => h e (hwalk.mem_iff.mp he) e' (hwalk.mem_iff.mp he')

namespace Fields

variable {entries walk walk' : List (String × String)} {fields fields' : Fields}
  {header : String × String} {name value : String}

/-- Whether headers are admitted does not depend on the order. -/
theorem exists_ofEntries_of_perm (hwalk : walk.Perm walk') (h : ofEntries walk = .ok fields) :
    ∃ fields', ofEntries walk' = .ok fields' := by
  have hsendable := exists_ofEntries_iff.mp ⟨fields, h⟩
  exact exists_ofEntries_iff.mpr fun e he => hsendable e (hwalk.mem_iff.mpr he)

/-- The fields of unambiguous headers are the headers, without the case of their names. -/
theorem get?_eq_some_iff_of_isUnambiguous (h : ofEntries entries = .ok fields)
    (hentries : IsUnambiguous entries) :
    fields.get? name = some value ↔ ∃ e ∈ entries, lowercase e.1 = name ∧ e.2 = value := by
  refine ⟨exists_mem_of_get? h, ?_⟩
  rintro ⟨e, he, rfl, rfl⟩
  -- Some header with the name is found, and it has the same value.
  obtain ⟨value, hget⟩ := exists_get?_of_mem h he
  obtain ⟨e', he', hname, rfl⟩ := exists_mem_of_get? h hget
  rw [hget, hentries e' he' e he hname]

theorem get?_eq_of_perm (hwalk : IsUnambiguous walk) (hperm : walk.Perm walk')
    (h : ofEntries walk = .ok fields) (h' : ofEntries walk' = .ok fields') (name : String) :
    fields'.get? name = fields.get? name := by
  apply Option.ext
  intro value
  rw [get?_eq_some_iff_of_isUnambiguous h hwalk,
    get?_eq_some_iff_of_isUnambiguous h' (hwalk.perm hperm.symm)]
  simp only [hperm.mem_iff]

/-- Each header can be the last one of a walk. -/
theorem exists_walk_of_mem (h : header ∈ entries) : ∃ walk, (walk ++ [header]).Perm entries :=
  ⟨entries.erase header,
    (List.perm_append_singleton header _).trans (List.perm_cons_erase h).symm⟩

/-- All walks lead to the same fields exactly if the headers are unambiguous. -/
theorem walks_agree_iff (hwalk : walk.Perm entries) (h : ofEntries walk = .ok fields) :
    (∀ walk' fields', walk'.Perm entries → ofEntries walk' = .ok fields' →
      ∀ name, fields'.get? (lowercase name) = fields.get? (lowercase name)) ↔
        IsUnambiguous entries := by
  constructor
  · intro hagree e he e' he' hname
    -- Two walks that end with the two headers find their values.
    have hlast {header : String × String} (hheader : header ∈ entries) :
        fields.get? (lowercase header.1) = some header.2 := by
      obtain ⟨walk', hperm⟩ := exists_walk_of_mem hheader
      obtain ⟨fields', hfields'⟩ := exists_ofEntries_of_perm (hwalk.trans hperm.symm) h
      rw [← hagree _ _ hperm hfields', get?_of_ofEntries_append hfields']
    have hvalues := (hlast he).symm.trans ((congrArg fields.get? hname).trans (hlast he'))
    exact Option.some.inj hvalues
  · intro hentries walk' fields' hperm h' name
    exact get?_eq_of_perm (hentries.perm hwalk) (hwalk.trans hperm.symm) h h' (lowercase name)

end Fields

namespace Client

variable {config : Config} {client client' : Client} {request : Request} {wire : WireRequest}
  {headers defaults : Headers}

/-- The settings of a client may hold the same default headers in another order. -/
theorem exists_ofConfig_of_perm (hperm : defaults.entries.Perm config.defaultHeaders.entries)
    (h : ofConfig config = .ok client) :
    ∃ client', ofConfig { config with defaultHeaders := defaults } = .ok client' ∧
      client'.config.resolve = client.config.resolve ∧
      (IsUnambiguous config.defaultHeaders.entries →
        ∀ name, client'.defaults.get? name = client.defaults.get? name) := by
  obtain ⟨hvalid, rfl, hfields⟩ := ofConfig_eq_ok_iff.mp h
  obtain ⟨fields', hfields'⟩ := Fields.exists_ofEntries_of_perm hperm.symm hfields
  exact ⟨⟨_, fields'⟩, ofConfig_eq_ok_iff.mpr ⟨hvalid, rfl, hfields'⟩, rfl,
    fun hdefaults => Fields.get?_eq_of_perm hdefaults hperm.symm hfields hfields'⟩

/-- A request may hold the same headers in another order, and so may the settings. -/
theorem exists_prepare_of_perm (hresolve : client'.config.resolve = client.config.resolve)
    (hperm : headers.entries.Perm request.headers.entries)
    (h : client.prepare request = .ok wire) :
    ∃ fields, client'.prepare { request with headers } = .ok { wire with fields } ∧
      (IsUnambiguous request.headers.entries →
        (∀ name, client'.defaults.get? name = client.defaults.get? name) →
          ∀ name, fields.get? name = wire.fields.get? name) := by
  obtain ⟨fields, u, hfields, hu, hrequestable, rfl⟩ := prepare_eq_ok_iff.mp h
  obtain ⟨fields', hfields'⟩ := Fields.exists_ofEntries_of_perm hperm.symm hfields
  -- The URL does not depend on the headers, so the same request is prepared but for its fields.
  have hprepare : client'.prepare { request with headers } = .ok _ :=
    prepare_eq_ok_iff.mpr ⟨fields', u, hfields', by rw [hresolve]; exact hu, hrequestable, rfl⟩
  refine ⟨_, hprepare, fun hheaders hdefaults name => ?_⟩
  have hsame := Fields.get?_eq_of_perm hheaders hperm.symm hfields hfields' name
  simp only [Fields.get?_withDefaults, get?_defaultsBeside, hdefaults, hsame]

/-- What the order of headers decides.

If the headers are admitted in one order, then they are in every order. All orders lead to the same
fields exactly if headers whose names differ at most in case have one value. So a request with these
headers that is sent is sent in whatever order they and the default headers are, to the same place
and with the same body, and if both are unambiguous, with the same fields. -/
theorem fields_of_walks {walk : List (String × String)} {fields : Fields}
    (hwalk : walk.Perm headers.entries) (h : Fields.ofEntries walk = .ok fields) :
    (∀ walk' : List (String × String), walk'.Perm headers.entries →
      ∃ fields', Fields.ofEntries walk' = .ok fields') ∧
    ((∀ walk' fields', walk'.Perm headers.entries → Fields.ofEntries walk' = .ok fields' →
      ∀ name, fields'.get? (lowercase name) = fields.get? (lowercase name)) ↔
        IsUnambiguous headers.entries) ∧
    ∀ (config : Config) (client : Client) (request : Request) (wire : WireRequest)
      (defaults reordered : Headers),
      ofConfig config = .ok client → client.prepare { request with headers } = .ok wire →
      defaults.entries.Perm config.defaultHeaders.entries →
      reordered.entries.Perm headers.entries →
        ∃ client' fields', ofConfig { config with defaultHeaders := defaults } = .ok client' ∧
          client'.prepare { request with headers := reordered } =
            .ok { wire with fields := fields' } ∧
          (IsUnambiguous config.defaultHeaders.entries → IsUnambiguous headers.entries →
            ∀ name, fields'.get? name = wire.fields.get? name) := by
  refine ⟨fun walk' hwalk' => ?_, Fields.walks_agree_iff hwalk h, ?_⟩
  · exact Fields.exists_ofEntries_of_perm (hwalk.trans hwalk'.symm) h
  · intro config client request wire defaults reordered hconfig hprepare hdefaults hheaders
    obtain ⟨client', hconfig', hresolve, hsame⟩ := exists_ofConfig_of_perm hdefaults hconfig
    obtain ⟨fields', hprepare', hfields⟩ := exists_prepare_of_perm hresolve hheaders hprepare
    exact ⟨client', fields', hconfig', hprepare',
      fun hdefaults hheaders => hfields hheaders (hsame hdefaults)⟩

/-- Two headers with different names may be visited in both orders, and so may two defaults. -/
theorem fields_of_walks_sample :
    let headers : Headers := (Table.empty.insert "A" "1").insert "b" "2"
    let reordered : Headers := (Table.empty.insert "b" "2").insert "A" "1"
    let config : Config := { Config.default with defaultHeaders := headers }
    let client : Client := ⟨config, (Table.empty.insert "a" "1").insert "b" "2"⟩
    let request : Request := { Request.bare .get "http://h/a" with headers }
    (∃ fields, Fields.ofEntries reordered.entries = .ok fields) ∧
      ofConfig config = .ok client ∧
      ∃ client' wire fields, client.prepare request = .ok wire ∧
        ofConfig { config with defaultHeaders := reordered } = .ok client' ∧
        client'.prepare { request with headers := reordered } = .ok { wire with fields } ∧
        ∀ name, fields.get? name = wire.fields.get? name := by
  intro headers reordered config client request
  have hperm : reordered.entries.Perm headers.entries := by decide
  have hheaders : IsUnambiguous headers.entries := by decide
  have hadmitted : Fields.ofEntries headers.entries = .ok client.defaults := rfl
  have hconfig : ofConfig config = .ok client := rfl
  obtain ⟨wire, hprepare⟩ : ∃ wire, client.prepare request = .ok wire :=
    exists_eq_ok_iff.mpr (by decide +kernel)
  obtain ⟨hwalks, -, hclients⟩ := fields_of_walks (.refl headers.entries) hadmitted
  obtain ⟨client', fields, hconfig', hprepare', hsame⟩ :=
    hclients config client request wire reordered reordered hconfig hprepare hperm hperm
  exact ⟨hwalks _ hperm, hconfig, client', wire, fields, hprepare, hconfig', hprepare',
    hsame hheaders hheaders⟩

/-- With two headers whose names differ in case only, it depends on the order which of the values is
sent. -/
theorem fields_of_two_casings :
    let headers : Headers := (Table.empty.insert "A" "1").insert "a" "2"
    let reordered : Headers := (Table.empty.insert "a" "2").insert "A" "1"
    let sent (headers : Headers) : Option (List (String × String)) :=
      ((⟨.default, .empty⟩ : Client).prepare
        { Request.bare .get "http://h/a" with headers }).toOption.map (·.fields.entries)
    reordered.entries.Perm headers.entries ∧
      (∃ fields, Fields.ofHeaders headers = .ok fields ∧ fields.get? (lowercase "A") = some "2") ∧
      (∃ fields, Fields.ofHeaders reordered = .ok fields ∧
        fields.get? (lowercase "A") = some "1") ∧
      sent headers = some [("a", "2"), ("accept", "*/*")] ∧
      sent reordered = some [("a", "1"), ("accept", "*/*")] := by
  intro headers reordered sent
  refine ⟨by decide, ⟨Table.empty.insert "a" "2", rfl, by decide⟩,
    ⟨Table.empty.insert "a" "1", rfl, by decide⟩, ?_, ?_⟩
  · decide +kernel
  · decide +kernel

end Client

end MethodRoutes

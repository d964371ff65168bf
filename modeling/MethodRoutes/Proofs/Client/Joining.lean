import Mathlib.Data.List.TakeWhile
import MethodRoutes.Proofs.Client.Prepare
import MethodRoutes.Proofs.Route.Assembly

/-!
# Destinations that are joined to a root

A client with a root appends every destination to it that does not name a server itself. A
destination whose first segment is a text that starts with a slash can never name one, whatever
its arguments are and its accessors answer: the URL starts with the root, and then with that text.

The arguments are not left out of sight by this. If the text consists of nothing but slashes, the
slashes that an argument starts with are taken away as well; but what stays of it comes after the
root all the same.

How many slashes are written where the two meet does not matter, on either side, and one of them
remains. This needs that a destination with slashes before it names no server, even if it did name
one without them.

## Main definitions

* `Config.slashes` — a text of nothing but slashes
* `Route.IsRooted` — the destination starts with a text that starts with a slash

## Main results

* `Config.exists_trimEnd_eq`, `Config.exists_trimStart_eq` — what trimming leaves of a text
* `Config.resolve_of_not_isAbsolute` — how a destination is joined to the root
* `Config.resolve_joins_at_one_slash` — the slashes between a root and a destination
* `Call.exists_url_eq_append` — the destination of a call starts with its first text
* `Client.resolve_of_isRooted` — where the requests of a rooted route go
-/

namespace MethodRoutes

/-! ## Joining -/

namespace Config

variable {c : Config} {root : String} {destination : List Char}

/-- Trimming the start takes slashes away, and all of them. -/
theorem exists_trimStart_eq (text : List Char) :
    ∃ n, text = List.replicate n '/' ++ trimStart text ∧ ¬ ['/'] <+: trimStart text := by
  refine ⟨(text.takeWhile (· = '/')).length, ?_, ?_⟩
  · have hslashes : text.takeWhile (· = '/') =
        List.replicate (text.takeWhile (· = '/')).length '/' := by
      apply List.eq_replicate_of_mem
      intro c hc
      simpa using List.mem_takeWhile_imp hc
    rw [← hslashes]
    exact List.takeWhile_append_dropWhile.symm
  · rintro ⟨rest, hrest⟩
    have hhead : (trimStart text).head? = some '/' := by rw [← hrest]; rfl
    have hstop := List.head?_dropWhile_not (fun c => decide (c = '/')) text
    rw [← trimStart, hhead] at hstop
    simp at hstop

/-- Trimming the end takes slashes away, and all of them. -/
theorem exists_trimEnd_eq (text : List Char) :
    ∃ n, text = trimEnd text ++ List.replicate n '/' ∧ ¬ ['/'] <:+ trimEnd text := by
  obtain ⟨n, htext, hstop⟩ := exists_trimStart_eq text.reverse
  refine ⟨n, ?_, ?_⟩
  · have hreverse := congrArg List.reverse htext
    rwa [List.reverse_reverse, List.reverse_append, List.reverse_replicate] at hreverse
  · intro hsuffix
    have hprefix := List.reverse_prefix.mpr hsuffix
    rw [trimEnd, List.reverse_reverse] at hprefix
    exact hstop hprefix

/-- A text that is trimmed with something behind it: if there is nothing left of it, the trimming
goes on behind it. -/
theorem trimStart_append (text rest : List Char) :
    trimStart (text ++ rest) =
      trimStart text ++ (if trimStart text = [] then trimStart rest else rest) := by
  induction text with
  | nil => rfl
  | cons c text ih =>
    by_cases hc : c = '/'
    · simpa [trimStart, hc] using ih
    · simp [trimStart, hc]

/-- What starts with a slash does not name a server. -/
theorem isAbsolute_of_slash (rest : List Char) : isAbsolute ('/' :: rest) = false := rfl

/-- A destination that does not name a server is appended to the root. -/
theorem resolve_of_not_isAbsolute {destination : String} (hroot : c.rootUrl = some root)
    (h : isAbsolute destination.toList = false) :
    (c.resolve destination).toList =
      trimEnd root.toList ++ '/' :: trimStart destination.toList := by
  rw [resolve, if_neg (by simp [h]), hroot]
  exact String.toList_ofList

/-! ### Slashes at the seam -/

/-- A text of nothing but slashes. -/
def slashes (n : Nat) : String := String.ofList (List.replicate n '/')

theorem toList_slashes (n : Nat) : (slashes n).toList = List.replicate n '/' :=
  String.toList_ofList

theorem isAbsolute_iff :
    isAbsolute destination = true ↔
      "http://".toList <+: destination ∨ "https://".toList <+: destination := by
  simp only [isAbsolute, Bool.or_eq_true, List.isPrefixOf_iff_prefix]

/-- Further slashes before a text are trimmed with the others. -/
theorem trimStart_replicate_append (n : Nat) (text : List Char) :
    trimStart (List.replicate n '/' ++ text) = trimStart text := by
  apply List.dropWhile_append_of_pos
  intro c hc
  simpa using (List.mem_replicate.mp hc).2

/-- Further slashes after a text are trimmed with the others. -/
theorem trimEnd_append_replicate (text : List Char) (n : Nat) :
    trimEnd (text ++ List.replicate n '/') = trimEnd text := by
  have hstart := trimStart_replicate_append n text.reverse
  rw [trimStart, trimStart] at hstart
  rw [trimEnd, List.reverse_append, List.reverse_replicate, hstart, ← trimEnd]

/-- Slashes before a destination do not make it name a server. -/
theorem isAbsolute_replicate_append (h : isAbsolute destination = false) (n : Nat) :
    isAbsolute (List.replicate n '/' ++ destination) = false := by
  cases n with
  | zero => exact h
  | succ n => exact isAbsolute_of_slash _

/-- A destination that names its server stays as it is, and so does every destination without a
root. Any other one is joined to the root at one slash: all slashes at the end of the root and at
the start of the destination are taken away, and nothing else is, so the URL does not depend on how
many of them were written. -/
theorem resolve_joins_at_one_slash (c : Config) (destination : String) :
    ("http://".toList <+: destination.toList ∨ "https://".toList <+: destination.toList →
      c.resolve destination = destination) ∧
    (c.rootUrl = none → c.resolve destination = destination) ∧
    ∀ root, c.rootUrl = some root →
      ¬ ("http://".toList <+: destination.toList ∨ "https://".toList <+: destination.toList) →
      (∃ (base path : List Char) (n k : Nat),
        (root.toList = base ++ List.replicate n '/' ∧ ¬ ['/'] <:+ base) ∧
        (destination.toList = List.replicate k '/' ++ path ∧ ¬ ['/'] <+: path) ∧
        (c.resolve destination).toList = base ++ '/' :: path) ∧
      ∀ n m, (c.withRootUrl (root ++ slashes n)).resolve (slashes m ++ destination) =
        c.resolve destination := by
  refine ⟨?_, ?_, ?_⟩
  · intro habsolute
    rw [resolve, if_pos (isAbsolute_iff.mpr habsolute)]
  · intro hroot
    rw [resolve, hroot]
    exact ite_self _
  · intro root hroot hrelative
    rw [← isAbsolute_iff, Bool.not_eq_true] at hrelative
    refine ⟨?_, ?_⟩
    · obtain ⟨n, hbase⟩ := exists_trimEnd_eq root.toList
      obtain ⟨k, hpath⟩ := exists_trimStart_eq destination.toList
      exact ⟨_, _, n, k, hbase, hpath, resolve_of_not_isAbsolute hroot hrelative⟩
    · intro n m
      have hchars : (slashes m ++ destination).toList =
          List.replicate m '/' ++ destination.toList := by
        rw [String.toList_append, toList_slashes]
      have hstill : isAbsolute (slashes m ++ destination).toList = false := by
        rw [hchars]
        exact isAbsolute_replicate_append hrelative m
      -- Both sides are joined, and the trimmed texts are the same.
      rw [← String.toList_inj, resolve_of_not_isAbsolute hroot hrelative,
        resolve_of_not_isAbsolute rfl hstill, hchars, String.toList_append, toList_slashes,
        trimEnd_append_replicate, trimStart_replicate_append]

/-- A destination that would name a server without the slashes before it is joined like any other,
and so is one that is nothing but slashes. -/
theorem resolve_joins_at_one_slash_sample :
    let c := default.withRootUrl "http://api//"
    c.resolve "/https://other" = "http://api/https://other" ∧
      (c.withRootUrl "http://api////").resolve "///https://other" = c.resolve "/https://other" ∧
      (default.withRootUrl "//").resolve "//" = "/" ∧
      c.resolve "https://other//" = "https://other//" := by
  intro c
  have hseam := (resolve_joins_at_one_slash c "/https://other").2.2 "http://api//" rfl (by decide)
  have hstays := (resolve_joins_at_one_slash c "https://other//").1 (by decide)
  exact ⟨by decide, hseam.2 2 2, by decide, hstays⟩

end Config

/-! ## Rooted routes -/

/-- The destination starts with this text, and the text with a slash. -/
structure Route.IsRooted (r : Route) (text : String) : Prop where
  /-- The text is the first segment of the destination. -/
  first : r.destination.segments.head? = some (.literal text)
  /-- It starts with a slash. -/
  slash : ['/'] <+: text.toList

/-- A destination that starts with a text is resolved to something that starts with it. -/
theorem Call.exists_url_eq_append {call : Call} {text : String}
    (h : call.route.destination.segments.head? = some (.literal text)) (i : Invocations) :
    ∃ rest : String, (call.url i).1 = text ++ rest := by
  obtain ⟨segments, hsegments⟩ := List.head?_eq_some_iff.mp h
  refine ⟨String.join (call.resolveAll segments i).1, ?_⟩
  have hurl : (call.url i).1 = String.join (call.resolveAll call.route.destination.segments i).1 :=
    rfl
  have hresolve : call.resolve (.literal text) i = (text, i) := rfl
  rw [hurl, hsegments, Call.resolveAll_cons_run, hresolve, String.join_cons]

/-- The encoding of a body does not touch the URL. -/
theorem Call.url_of_attachBody {codec : Codec} {before request : Request} {body : Option Json.Value}
    (h : Call.attachBody codec before body = .ok request) : request.url = before.url := by
  rcases attachBody_eq_ok_iff.mp h with ⟨-, rfl⟩ | ⟨v, bytes, -, -, -, rfl⟩
  · rfl
  · rfl

namespace Client

/-- A client parses the URL that the request is resolved to, and sends the request there. -/
theorem exists_parse_of_prepare {client : Client} {request : Request} {wire : WireRequest}
    (h : client.prepare request = .ok wire) :
    ∃ u, Url.parse (client.config.resolve request.url) = .ok u ∧ wire.url = u.withoutUserInfo := by
  obtain ⟨fields, u, -, hu, -, rfl⟩ := prepare_eq_ok_iff.mp h
  exact ⟨u, hu, rfl⟩

/-- The arguments of a rooted route cannot redirect it. The URL of each of its calls is the root
without the slashes at its end, a slash, and the first text of the destination without the slashes
at its start; the rest of the destination follows, also trimmed if there was nothing in the text but
slashes. The destination is never taken for one that names its server, and it is this URL that the
requests of the call are sent to. -/
theorem resolve_of_isRooted {client : Client} {root text : String} {call : Call}
    (hroot : client.config.rootUrl = some root) (hrooted : call.route.IsRooted text) :
    ∃ (base path : List Char) (n k : Nat),
      (root.toList = base ++ List.replicate n '/' ∧ ¬ ['/'] <:+ base) ∧
      (text.toList = List.replicate k '/' ++ path ∧ ¬ ['/'] <+: path) ∧
      (∀ i, ∃ rest, (call.url i).1.toList = text.toList ++ rest ∧
        Config.isAbsolute (call.url i).1.toList = false ∧
        (client.config.resolve (call.url i).1).toList =
          base ++ '/' :: (path ++ if path = [] then Config.trimStart rest else rest)) ∧
      ∀ codec i request, (call.assemble codec i).1 = .ok request →
        (∃ j, request.url = (call.url j).1) ∧
        ∀ wire, client.prepare request = .ok wire →
          ∃ u, Url.parse (client.config.resolve request.url) = .ok u ∧
            wire.url = u.withoutUserInfo := by
  obtain ⟨n, hbase⟩ := Config.exists_trimEnd_eq root.toList
  obtain ⟨k, hpath⟩ := Config.exists_trimStart_eq text.toList
  refine ⟨_, _, n, k, hbase, hpath, fun i => ?_, fun codec i request hrequest => ?_⟩
  · obtain ⟨rest, hurl⟩ := Call.exists_url_eq_append hrooted.first i
    obtain ⟨tail, htail⟩ := hrooted.slash
    have hchars : (call.url i).1.toList = text.toList ++ rest.toList := by
      rw [hurl, String.toList_append]
    have hrelative : Config.isAbsolute (call.url i).1.toList = false := by
      rw [hchars, ← htail]
      exact Config.isAbsolute_of_slash _
    refine ⟨rest.toList, hchars, hrelative, ?_⟩
    rw [Config.resolve_of_not_isAbsolute hroot hrelative, hchars, Config.trimStart_append]
  · -- The destination is resolved after the provider has been asked.
    exact ⟨⟨(call.headers i).2, Call.url_of_attachBody hrequest⟩,
      fun wire hwire => exists_parse_of_prepare hwire⟩

/-- An argument that looks like the address of another server ends up in the path. -/
theorem resolve_of_isRooted_sample :
    let client : Client := ⟨Config.default.withRootUrl "http://api//", .empty⟩
    let call : Call :=
      ⟨⟨⟨"find(String)"⟩, ⟨[.literal "/", .parameter 0]⟩, .get, none, none, .unit, .plain,
        [.text "name"], .empty⟩, [.string "/other.example/x"]⟩
    call.route.IsRooted "/" ∧ (call.url .none).1 = "//other.example/x" ∧
      client.config.resolve (call.url .none).1 = "http://api/other.example/x" ∧
      Config.isAbsolute (call.url .none).1.toList = false := by
  intro client call
  have hrooted : call.route.IsRooted "/" := ⟨rfl, List.prefix_rfl⟩
  have hroot : client.config.rootUrl = some "http://api//" := rfl
  obtain ⟨base, path, n, k, -, -, hurl, -⟩ := resolve_of_isRooted hroot hrooted
  obtain ⟨rest, -, hrelative, -⟩ := hurl .none
  exact ⟨hrooted, by decide, by decide, hrelative⟩

end Client

end MethodRoutes

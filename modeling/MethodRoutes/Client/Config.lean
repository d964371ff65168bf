import MethodRoutes.Client.Fields
import MethodRoutes.Json.Record
import MethodRoutes.Route.Basic
import MethodRoutes.Url.Parse

/-!
# Settings of an HTTP client

## Main definitions

* `Config` — the settings
* `ClientError` — why settings are refused
* `Config.validate` — whether the root can be one
* `Config.resolve` — the URL of a destination
* `Config.format`, `Config.load`, `Config.toJson` — settings in JSON
-/

namespace MethodRoutes

open Json

/-- Why settings are refused, or a router with them cannot be set up. -/
inductive ClientError where
  /-- The root is no URL. -/
  | url (error : UrlError)
  /-- Nothing can be relative to the root. -/
  | notABase (root : String)
  /-- A default header is malformed. -/
  | field (error : FieldError)
  /-- The text is not one of settings. -/
  | json (error : Located)
  /-- The methods cannot be served. -/
  | compile (error : CompileError)

/-- The wording of the error. -/
def ClientError.message : ClientError → String
  | url e => "URL parse error: " ++ e.message
  | notABase root => "Invalid URL: root URL cannot be a base: " ++ root
  | field e => e.message
  | json e => "JSON error: " ++ e.message
  | compile e => "Route generation failed: " ++ e.message

/-- The settings of a client. -/
structure Config where
  /-- What destinations are relative to. -/
  rootUrl : Option String
  /-- How long an exchange may take, in milliseconds. -/
  timeoutMs : UInt64
  /-- The headers of requests that do not set them. -/
  defaultHeaders : Headers
  /-- Whether a response that is no success is a failure of the transport. -/
  errorOnStatus : Bool
  deriving DecidableEq, Repr

namespace Config

/-- No root, half a minute of patience, no headers, and failures for whatever is no success. -/
def default : Config := ⟨none, 30000, .empty, true⟩

instance : Inhabited Config := ⟨default⟩

/-- Set the root. -/
def withRootUrl (c : Config) (root : String) : Config := { c with rootUrl := some root }

/-- Set the patience. It is kept in whole milliseconds, and at most the greatest there is. -/
def withTimeout (c : Config) (seconds nanoseconds : Nat) : Config :=
  let ms := seconds * 1000 + nanoseconds / 1000000
  { c with timeoutMs := .ofNat (min ms 0xFFFFFFFFFFFFFFFF) }

/-- Set a default header. -/
def withDefaultHeader (c : Config) (name value : String) : Config :=
  { c with defaultHeaders := c.defaultHeaders.insert name value }

/-- Choose whether a response that is no success is a failure. -/
def withErrorOnStatus (c : Config) (errorOnStatus : Bool) : Config := { c with errorOnStatus }

/-- The seconds and nanoseconds of the patience. -/
def timeout (c : Config) : Nat × Nat :=
  (c.timeoutMs.toNat / 1000, c.timeoutMs.toNat % 1000 * 1000000)

/-- A root has to be an absolute URL that something can be relative to. -/
def validate (c : Config) : Except ClientError Unit :=
  match c.rootUrl with
  | none => .ok ()
  | some root =>
    match Url.parse root with
    | .error e => .error (.url e)
    | .ok u => if u.cannotBeBase then .error (.notABase root) else .ok ()

/-- Whether a destination names its server. -/
def isAbsolute (destination : List Char) : Bool :=
  "http://".toList.isPrefixOf destination || "https://".toList.isPrefixOf destination

/-- A text without the slashes at its end. -/
def trimEnd (text : List Char) : List Char := (text.reverse.dropWhile (· = '/')).reverse

/-- A text without the slashes at its start. -/
def trimStart (text : List Char) : List Char := text.dropWhile (· = '/')

/-- The URL of a destination: an absolute one stays, any other is appended to the root with one
slash between them. -/
def resolve (c : Config) (destination : String) : String :=
  if isAbsolute destination.toList then destination
  else
    match c.rootUrl with
    | none => destination
    | some root =>
      String.ofList (trimEnd root.toList ++ '/' :: trimStart destination.toList)

/-- The settings that have been read. -/
structure Draft where
  rootUrl : Option (Option String)
  timeoutMs : Option Nat
  defaultHeaders : Option Headers
  errorOnStatus : Option Bool

/-- Every setting may be left out. -/
def record : Record Draft Config where
  name := "HttpBackendConfig"
  fields := [
    .of "root_url" true (.option .text) (·.rootUrl) fun d x => { d with rootUrl := some x },
    .of "timeout_ms" true (.natural 64) (·.timeoutMs) fun d x => { d with timeoutMs := some x },
    .of "default_headers" true (.table .text) (·.defaultHeaders)
      fun d x => { d with defaultHeaders := some x },
    .of "error_on_status" true .bool (·.errorOnStatus)
      fun d x => { d with errorOnStatus := some x }]
  start := ⟨none, none, none, none⟩
  finish d := .ok ⟨
    d.rootUrl.getD default.rootUrl,
    (d.timeoutMs.map UInt64.ofNat).getD default.timeoutMs,
    d.defaultHeaders.getD default.defaultHeaders,
    d.errorOnStatus.getD default.errorOnStatus⟩

/-- The format of settings. -/
def format : Format Config := record.format

/-- Read settings from a text, and check them. -/
def load (text : String) : Except ClientError Config :=
  match format.decode (Bytes.ofText text) with
  | .error e => .error (.json e)
  | .ok c => c.validate.map fun _ => c

/-- Settings as a value. A root that is not set and headers that are none are left out. -/
def toJson (c : Config) : Value :=
  .object (
    (c.rootUrl.toList.map fun root => ("root_url", .string root)) ++
    [("timeout_ms", .nat c.timeoutMs.toNat)] ++
    (if c.defaultHeaders.isEmpty then []
      else [("default_headers", .object (c.defaultHeaders.entries.map fun e => (e.1, .string e.2)))]) ++
    [("error_on_status", .bool c.errorOnStatus)])

end Config

end MethodRoutes

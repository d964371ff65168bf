import MethodRoutes.Client.Config
import MethodRoutes.Router.Basic

/-!
# HTTP clients

A client is a transport that sends requests over a network. What becomes of a request once it is
handed over is a parameter: it stands for all that is done until there is an answer or a failure,
and this may take several exchanges with several servers.

## Main definitions

* `WireRequest`, `WireResponse`, `NetworkError`, `Network` — what passes over a network
* `Client` — checked settings
* `Client.prepare` — the request on the wire, or why there is none
* `Client.receive` — the outcome of an answer
* `Client.transport` — the transport of a client over a network
-/

namespace MethodRoutes

/-- A request on the wire. -/
structure WireRequest where
  /-- The verb. -/
  verb : Verb
  /-- The URL, without user name and password. -/
  url : Url
  /-- The user name and password that the URL gave. They make an `authorization` field, unless the
  request has one of its own. -/
  credentials : Option (String × Option String)
  /-- The header fields, without those that belong to the connection. -/
  fields : Fields
  /-- The body. -/
  body : Option Bytes
  deriving DecidableEq, Repr

/-- A response on the wire. -/
structure WireResponse where
  /-- The status code. -/
  code : UInt16
  /-- The header fields in order of arrival. -/
  fields : List (String × Bytes)
  /-- The body. -/
  body : Bytes
  deriving DecidableEq, Repr

/-- How a network can fail. -/
inductive NetworkError where
  /-- Nobody accepts a connection. -/
  | unreachable
  /-- The connection ends without an answer. -/
  | closed
  /-- No answer comes in time. -/
  | silent
  /-- The body of the answer is shorter than announced. -/
  | truncated
  deriving DecidableEq, Repr

/-- Carries requests to servers and responses back, with a state that this may change. -/
structure Network (σ : Type) where
  /-- Carry out a request to its end. This is the whole execution by the HTTP client, with the
  connections it opens, the redirects it follows and the attempts it repeats. The response is the
  one that it hands out in the end. -/
  exchange : WireRequest → σ → Except NetworkError WireResponse × σ

/-- The network that leads nowhere. -/
def Network.unreachable {σ : Type} : Network σ := ⟨fun _ state => (.error .unreachable, state)⟩

/-- Settings that have been checked. -/
structure Client where
  /-- The settings. -/
  config : Config
  /-- The fields of the default headers. -/
  defaults : Fields

namespace Client

/-- Check settings: first the root, then the default headers. -/
def ofConfig (config : Config) : Except ClientError Client := do
  config.validate
  match Fields.ofHeaders config.defaultHeaders with
  | .error e => .error (.field e)
  | .ok defaults => return ⟨config, defaults⟩

/-- What a client accepts unless it is told otherwise. -/
def anything : Fields := Table.empty.insert "accept" "*/*"

/-- The name of an error, with the URL that it concerns. -/
def concerning (what : String) (u : Url) : String := what ++ " for url (" ++ u.render ++ ")"

/-- Whether the name of a host can be written into a request. -/
def isWritableHost : Host → Bool
  | .named name => name.toList.all fun c => !(c = '"' || c = '\x60' || c = '{' || c = '}')
  | _ => true

/-- Whether a URL can be requested: it is one of the web's plain or secured protocol and has a
host that can be written into a request. -/
def isRequestable (u : Url) : Bool :=
  (u.scheme = "http" || u.scheme = "https") && (u.host?.map isWritableHost).getD false

/-- User name and password of a URL. -/
def credentialsOf (u : Url) : Option (String × Option String) :=
  u.authority.bind fun a =>
    if a.username.isEmpty && a.password.isNone then none else some (a.username, a.password)

/-- The defaults beside user name and password, which are not replaced by a default. -/
def defaultsBeside (client : Client) (credentials : Option (String × Option String)) : Fields :=
  if credentials.isSome then client.defaults.erase "authorization" else client.defaults

/-- The request on the wire: its headers are checked first, then its URL. -/
def prepare (client : Client) (request : Request) : Except TransportError WireRequest :=
  match Fields.ofHeaders request.headers with
  | .error e => .error (.request e.message)
  | .ok fields =>
    match Url.parse (client.config.resolve request.url) with
    | .error _ => .error (.request "builder error")
    | .ok u =>
      if isRequestable u then
        -- What the request says itself comes before the settings, and those before the rest.
        .ok {
          verb := request.verb
          url := u.withoutUserInfo
          credentials := credentialsOf u
          fields := (fields.withDefaults (client.defaultsBeside (credentialsOf u))).withDefaults
            anything
          body := request.body }
      else .error (.request (concerning "builder error" u.withoutUserInfo))

/-- The failure of a request that met a failure of the network. -/
def networkFailure (u : Url) : NetworkError → TransportError
  | .unreachable => .connect (concerning "error sending request" u)
  | .closed => .request (concerning "error sending request" u)
  | .silent => .timeout
  | .truncated => .malformed "error decoding response body"

/-- The outcome of a response: a failure, if it is no success and the settings say so. -/
def receive (client : Client) (response : Response) : Outcome :=
  if client.config.errorOnStatus && !response.isSuccess then .error (.status response)
  else .ok response

/-- The response that arrived on the wire. -/
def responseOf (wire : WireResponse) : Response := ⟨wire.code, collectFields wire.fields, wire.body⟩

/-- The transport of a client over a network. A request that cannot be prepared does not reach
the network. Any other one is handed over, and received is what its whole execution leads to, after
any redirects. -/
def transport {σ : Type} (client : Client) (network : Network σ) : Transport σ where
  send request state :=
    match client.prepare request with
    | .error e => (.error e, state)
    | .ok wire =>
      match network.exchange wire state with
      | (.error e, state) => (.error (networkFailure wire.url e), state)
      | (.ok response, state) => (client.receive (responseOf response), state)

end Client

end MethodRoutes

import MethodRoutes.Http.Status
import MethodRoutes.Json.Render
import MethodRoutes.Method.Basic
import MethodRoutes.Table
import MethodRoutes.Text.Utf8

/-!
# Requests, responses and failures of a transport

## Main definitions

* `Headers` — header values by name, where names differ in case
* `Request`, `Response` — what a transport takes and gives
* `TransportError` — why a transport gave no usable response
* `Outcome` — the response or the failure
* `Transport` — what carries out an exchange
-/

namespace MethodRoutes

/-- Header values by name. Names that differ in case are different names. -/
abbrev Headers := Table String String

/-- A request that is ready to be sent. -/
structure Request where
  /-- The verb. -/
  verb : Verb
  /-- The destination, which may be relative to a root that the transport knows. -/
  url : String
  /-- The headers. -/
  headers : Headers
  /-- The encoded body, if there is one. -/
  body : Option Bytes
  /-- What is going to be decoded from a success. -/
  resultType : ResultType
  deriving DecidableEq, Repr

/-- A request with nothing but a verb and a destination. -/
def Request.bare (verb : Verb) (url : String) : Request := ⟨verb, url, .empty, none, .unit⟩

/-- A response. -/
structure Response where
  /-- The status code, which need not have three digits. -/
  code : UInt16
  /-- The headers. -/
  headers : Headers
  /-- The body, empty if there is none. -/
  body : Bytes
  deriving DecidableEq, Repr

namespace Response

/-- A response with nothing but a status code. -/
def ofCode (code : UInt16) : Response := ⟨code, .empty, []⟩

/-- A response that carries a JSON value. -/
def json (code : UInt16) (value : Json.Value) : Response :=
  ⟨code, Table.empty.insert "content-type" "application/json", Bytes.ofText value.render⟩

/-- Whether the response is a success. -/
def isSuccess (r : Response) : Bool := Status.isSuccessCode r.code

/-- Whether the response blames the client. -/
def isClientError (r : Response) : Bool := Status.isClientErrorCode r.code

/-- Whether the response blames the server. -/
def isServerError (r : Response) : Bool := Status.isServerErrorCode r.code

end Response

/-- Why a transport gave no usable response. -/
inductive TransportError where
  /-- No connection could be made. -/
  | connect (message : String)
  /-- The answer took too long. -/
  | timeout
  /-- The answer could not be read. -/
  | malformed (message : String)
  /-- The request could not be sent. -/
  | request (message : String)
  /-- The server answered, with a status that the transport takes for a failure. -/
  | status (response : Response)
  deriving DecidableEq, Repr

namespace TransportError

/-- The response that the failure carries. -/
def response? : TransportError → Option Response
  | status r => some r
  | _ => none

/-- The wording of the failure. -/
def message : TransportError → String
  | connect m => "connection failed: " ++ m
  | timeout => "request timed out"
  | malformed m => "malformed response: " ++ m
  | request m => "request failed: " ++ m
  | status r => "server responded with status " ++ toString r.code.toNat

end TransportError

/-- How an exchange ended. -/
abbrev Outcome := Except TransportError Response

namespace Outcome

/-- The response that the server gave, whether or not the transport took it for a failure. -/
def response? : Outcome → Option Response
  | .ok r => some r
  | .error e => e.response?

end Outcome

/-- What carries out exchanges, with a state that they may change. -/
structure Transport (σ : Type) where
  /-- Carry out one exchange. -/
  send : Request → σ → Outcome × σ

end MethodRoutes

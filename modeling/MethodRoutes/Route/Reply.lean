import MethodRoutes.Route.Basic
import MethodRoutes.Route.Error

/-!
# Replies

How the outcome of an exchange becomes what the caller of a route gets back.

## Main definitions

* `Wrapper` — the reply of a status-aware route, with its projections
* `Reply` — the reply of any route
* `Route.classify` — the reply, or the error, that an outcome stands for
-/

namespace MethodRoutes

open Json (Value)

variable {ρ : Type}

/-- What a status-aware route gives back: status and headers, the decoded body of a success if
there is one, and the failure that the response was recovered from. -/
structure Wrapper (ρ : Type) where
  /-- The decoded body. -/
  result : Option ρ
  /-- The status of the response. -/
  status : Status
  /-- The headers of the response. -/
  headers : Headers
  /-- The failure of the transport that carried the response. -/
  routingError : Option RoutingError

namespace Wrapper

/-- The body, which may be absent, of a success; the status of anything else. -/
def asResult (w : Wrapper ρ) : Except Status (Option ρ) :=
  if w.status.isSuccess then .ok w.result else .error w.status

/-- The body if there is one, and else the failure if there is one. -/
def responseAsResult (w : Wrapper ρ) : Except (Option RoutingError) ρ :=
  match w.result with
  | some r => .ok r
  | none => .error w.routingError

/-- The status, which is always known. -/
def statusAsResult (w : Wrapper ρ) : Except RoutingError Status := .ok w.status

end Wrapper

/-- What a route gives back. -/
inductive Reply (ρ : Type) where
  /-- The decoded body of a plain route, absent if there is nothing to decode. -/
  | value (result : Option ρ)
  /-- The wrapper of a status-aware route. -/
  | response (wrapper : Wrapper ρ)

namespace Reply

/-- The decoded body, whatever the kind of the route. -/
def result : Reply ρ → Option ρ
  | value r => r
  | response w => w.result

/-- The wrapper of a status-aware route. -/
def wrapper? : Reply ρ → Option (Wrapper ρ)
  | value _ => none
  | response w => some w

end Reply

/-- Turns decoded values into results, or tells why that fails. -/
abbrev Decoder (ρ : Type) := Value → Except String ρ

/-- The decoder of the results that a format describes. -/
def Decoder.ofFormat (format : Json.Format ρ) : Decoder ρ := fun v =>
  (format.ofValue v).mapError Json.Mismatch.message

/-- The status of a code; a code without three digits is a malformed response. -/
def checkedStatus (code : UInt16) : Except RoutingError Status :=
  match Status.ofCode? code with
  | some s => .ok s
  | none => .error (.transport (.malformed ("invalid status code " ++ toString code.toNat)))

namespace Route

/-- The result in a response. There is none if the route decodes nothing, if the body is empty,
or if it decodes to `null`. -/
def decode (route : Route) (codec : Codec) (decoder : Decoder ρ) (response : Response) :
    Except RoutingError (Option ρ) :=
  if route.resultType.isUnit || response.body.isEmpty then .ok none
  else
    match codec.decode response.body route.resultType with
    | .error e => .error (.ofCodec e)
    | .ok v =>
      if v.isNull then .ok none
      else
        match decoder v with
        | .ok r => .ok (some r)
        | .error message => .error (.decode (route.signature.text ++ ": " ++ message))

/-- What an outcome means to the caller of a plain route: success or an error. -/
def classifyPlain (route : Route) (codec : Codec) (decoder : Decoder ρ) :
    Outcome → Except RoutingError (Reply ρ)
  | .ok response =>
    if response.isSuccess then (route.decode codec decoder response).map .value
    else do .error (.status (← checkedStatus response.code))
  | .error e => .error (.transport e)

/-- What an outcome means to the caller of a status-aware route: a wrapper as soon as the server
answered, an error otherwise or if the body of a success cannot be decoded. -/
def classifyStatusAware (route : Route) (codec : Codec) (decoder : Decoder ρ) :
    Outcome → Except RoutingError (Reply ρ)
  | .ok response => do
    let status ← checkedStatus response.code
    let result ← if response.isSuccess then route.decode codec decoder response else .ok none
    return .response ⟨result, status, response.headers, none⟩
  | .error e =>
    match e.response? with
    | none => .error (.transport e)
    | some response => do
      let status ← checkedStatus response.code
      return .response ⟨none, status, response.headers, some (.transport e)⟩

/-- What an outcome means to the caller of a route. -/
def classify (route : Route) (codec : Codec) (decoder : Decoder ρ) (outcome : Outcome) :
    Except RoutingError (Reply ρ) :=
  match route.returnKind with
  | .plain => route.classifyPlain codec decoder outcome
  | .statusAware => route.classifyStatusAware codec decoder outcome

end Route

end MethodRoutes

import MethodRoutes.Http.Codec

/-!
# Failed calls

## Main definitions

* `RoutingError` — why a call produced no usable response
* `RoutingError.status?` — the status of the response behind a failure
-/

namespace MethodRoutes

/-- Why a call produced no usable response. -/
inductive RoutingError where
  /-- The transport failed. -/
  | transport (error : TransportError)
  /-- The response is no success. -/
  | status (status : Status)
  /-- The body of the request could not be encoded. -/
  | encode (error : CodecError)
  /-- The body of the response could not be decoded. -/
  | decode (message : String)
  /-- There are too many or too few arguments. -/
  | argumentCount (method : Signature) (expected actual : Nat)
  /-- An argument that the destination needs is absent. -/
  | nullArgument (method : Signature) (index : Nat) (name : String)
  /-- No method has the signature. -/
  | unknownRoute (method : Signature)
  deriving DecidableEq, Repr

namespace RoutingError

/-- The status of the response behind the failure, if there was one. -/
def status? : RoutingError → Option Status
  | status s => some s
  | transport e => e.response?.bind fun r => Status.ofCode? r.code
  | _ => none

/-- A codec's failure belongs to the request or to the response, as its own kind says. -/
def ofCodec (e : CodecError) : RoutingError :=
  match e with
  | .encode _ => encode e
  | .decode _ _ => decode e.message

/-- The wording of the failure. -/
def message : RoutingError → String
  | transport e => "transport failure: " ++ e.message
  | status s => "request failed with status " ++ s.text
  | encode e => "failed to encode request body: " ++ e.message
  | decode m => "failed to decode response body: " ++ m
  | argumentCount method expected actual =>
    method.text ++ ": expected " ++ toString expected ++ " arguments, got " ++ toString actual
  | nullArgument method index name =>
    method.text ++ ": argument " ++ toString index ++ " ('" ++ name ++ "') is null"
  | unknownRoute method => "no route for method " ++ method.text

end RoutingError

end MethodRoutes

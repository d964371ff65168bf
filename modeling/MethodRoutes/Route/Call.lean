import MethodRoutes.Route.Basic
import MethodRoutes.Route.Error

/-!
# Calls

A call is a route with arguments that fit it. Its destination is the concatenation of what the
segments resolve to, and together with headers and body that makes a request.

## Main definitions

* `Call`, `Route.call` — check the arguments of a call
* `Call.resolve`, `Call.url` — what a segment, and the whole destination, stand for
* `Call.assemble` — the request of a call
-/

namespace MethodRoutes

open Json (Value)

/-- A route with its arguments. -/
structure Call where
  /-- The route. -/
  route : Route
  /-- The arguments, one for each parameter. -/
  args : List Value

/-- The argument at a position; positions without one have no argument. -/
def argument (args : List Value) (index : Nat) : Value := args[index]?.getD .null

/-- Check that there is an argument for each parameter, and that none of those that the
destination refers to is absent; the first one that is, from left to right, is reported. -/
def Route.call (r : Route) (args : List Value) : Except RoutingError Call :=
  if args.length ≠ r.parameters.length then
    .error (.argumentCount r.signature r.parameters.length args.length)
  else
    match r.destination.parameters.find? fun index => (argument args index).isNull with
    | some index =>
      .error (.nullArgument r.signature index ((r.parameters[index]?.map (·.name)).getD ""))
    | none => .ok ⟨r, args⟩

namespace Call

/-- The argument that is sent as the body, if the route has a body parameter. -/
def body? (call : Call) : Option Value := call.route.bodyIndex.map (argument call.args)

/-- The text of an argument: a string as it is, any other value as its JSON text. -/
def textOf : Value → String
  | .string s => s
  | v => v.render

/-- The text that a segment stands for. An accessor of the route is invoked; the name of an
accessor that the route does not have stands for the empty text. -/
def resolve (call : Call) : Segment → StateM Invocations String
  | .literal text => pure text
  | .parameter index => pure (textOf (argument call.args index))
  | .accessor name =>
    match call.route.accessors.get? name with
    | some accessor => accessor.invoke name
    | none => pure ""

/-- The texts that segments stand for, resolved from left to right. -/
def resolveAll (call : Call) (segments : List Segment) : StateM Invocations (List String) :=
  segments.mapM call.resolve

/-- The destination with all its segments resolved. -/
def url (call : Call) : StateM Invocations String := do
  return String.join (← call.resolveAll call.route.destination.segments)

/-- The headers that the provider of the route answers; none without a provider. -/
def headers (call : Call) : StateM Invocations Headers :=
  match call.route.provider with
  | some provider => provider.invoke call.route.signature
  | none => pure .empty

/-- Whether two header names are the same up to the case of ASCII letters. -/
def sameName (a b : String) : Bool :=
  a.toList.map Char.toLower = b.toList.map Char.toLower

/-- Announce a content type, unless the headers have one in any case. -/
def announce (headers : Headers) (contentType : String) : Headers :=
  if headers.keys.any (sameName "content-type") then headers
  else headers.insert "content-type" contentType

/-- A request with a body that the codec encodes, and its content type. There is nothing to add
without a body, or if it is absent. -/
def attachBody (codec : Codec) (request : Request) :
    Option Value → Except RoutingError Request
  | none => .ok request
  | some body =>
    if body.isNull then .ok request
    else
      match codec.encode body with
      | .error e => .error (.ofCodec e)
      | .ok bytes =>
        .ok { request with
          body := some bytes
          headers := announce request.headers codec.contentType }

/-- The request of a call: first the headers are asked for, then the destination is resolved,
and at last the body is encoded, if there is one and it is not absent. -/
def assemble (call : Call) (codec : Codec) : StateM Invocations (Except RoutingError Request) := do
  let headers ← call.headers
  let url ← call.url
  return attachBody codec ⟨call.route.verb, url, headers, none, call.route.resultType⟩ call.body?

end Call

end MethodRoutes

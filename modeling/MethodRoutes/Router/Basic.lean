import MethodRoutes.Route.Call
import MethodRoutes.Route.Reply

/-!
# Routers

A router is built once from a set of methods, and then serves calls by signature. If one of the
methods cannot be compiled, there is no router.

## Main definitions

* `Registration`, `Plan` — what a router is built from
* `Router`, `Plan.build` — compiled routes by signature
* `Backend`, `Session` — what calls are carried out with, and what they change
* `Route.execute`, `Router.call` — carry out a call
-/

namespace MethodRoutes

open Json (Value)

/-- One step of setting up a router. -/
inductive Registration where
  /-- Register an accessor. -/
  | accessor (name : String) (accessor : Accessor)
  /-- Attach a headers provider to a method. -/
  | provider (method : Signature) (provider : HeadersProvider)
  /-- Add methods. -/
  | methods (methods : List Method)

/-- What a router is built from. -/
structure Plan where
  /-- The accessors and providers. -/
  bindings : Bindings
  /-- The methods, in the order in which they were added. -/
  methods : List Method

namespace Plan

/-- Nothing registered. -/
def empty : Plan := ⟨.empty, []⟩

/-- Take one step. -/
def register (plan : Plan) : Registration → Plan
  | .accessor name accessor => { plan with bindings := plan.bindings.withAccessor name accessor }
  | .provider method provider => { plan with bindings := plan.bindings.withProvider method provider }
  | .methods methods => { plan with methods := plan.methods ++ methods }

/-- Take steps in order. -/
def registerAll (plan : Plan) (steps : List Registration) : Plan := steps.foldl register plan

end Plan

/-- Compiled routes by signature. -/
structure Router where
  /-- The routes. -/
  routes : Table Signature Route

namespace Router

/-- Compile a method and add it, unless its signature is taken. -/
def addMethod (b : Bindings) (routes : Table Signature Route) (m : Method) :
    Except CompileError (Table Signature Route) := do
  let route ← Route.compile m b
  if routes.contains route.signature then .error (.duplicate route.signature)
  else return routes.insert route.signature route

/-- The route of a method. -/
def route? (router : Router) (method : Signature) : Option Route := router.routes.get? method

/-- The signatures that are served. -/
def signatures (router : Router) : List Signature := router.routes.keys

/-- The number of routes. -/
def size (router : Router) : Nat := router.routes.size

/-- Whether there are no routes. -/
def isEmpty (router : Router) : Bool := router.routes.isEmpty

end Router

/-- Compile every method in order; the first one that cannot be added decides. -/
def Plan.build (plan : Plan) : Except CompileError Router := do
  let routes ← plan.methods.foldlM (Router.addMethod plan.bindings) .empty
  return ⟨routes⟩

/-- What calls are carried out with. -/
structure Backend (σ : Type) where
  /-- Carries out the exchanges. -/
  transport : Transport σ
  /-- Encodes and decodes bodies. -/
  codec : Codec

/-- What calls change. -/
structure Session (σ : Type) where
  /-- How often accessors and providers have been invoked. -/
  invocations : Invocations
  /-- The state of the transport. -/
  state : σ
  /-- The requests that the transport has received, in order. -/
  sent : List Request

namespace Session

variable {σ α : Type}

/-- A session before its first call. -/
def start (state : σ) : Session σ := ⟨.none, state, []⟩

/-- Run what may invoke accessors and providers. -/
def invoking (action : StateM Invocations α) : StateM (Session σ) α := fun s =>
  let (a, invocations) := action.run s.invocations
  (a, { s with invocations })

/-- Hand a request to the transport. -/
def send (transport : Transport σ) (request : Request) : StateM (Session σ) Outcome := fun s =>
  let (outcome, state) := transport.send request s.state
  (outcome, { s with state, sent := s.sent ++ [request] })

end Session

variable {σ ρ : Type}

/-- Carry out a call of a route: check the arguments, assemble the request, send it, and
classify the outcome. The first failure ends the call. -/
def Route.execute (route : Route) (backend : Backend σ) (decoder : Decoder ρ)
    (args : List Value) : StateM (Session σ) (Except RoutingError (Reply ρ)) := do
  match route.call args with
  | .error e => return .error e
  | .ok call =>
    -- The invocations count even if the body cannot be encoded.
    match ← Session.invoking (call.assemble backend.codec) with
    | .error e => return .error e
    | .ok request =>
      let outcome ← Session.send backend.transport request
      return route.classify backend.codec decoder outcome

/-- Call the method with a signature. -/
def Router.call (router : Router) (backend : Backend σ) (decoder : Decoder ρ)
    (method : Signature) (args : List Value) :
    StateM (Session σ) (Except RoutingError (Reply ρ)) :=
  match router.route? method with
  | none => pure (.error (.unknownRoute method))
  | some route => route.execute backend decoder args

end MethodRoutes

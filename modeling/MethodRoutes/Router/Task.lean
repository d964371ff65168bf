import MethodRoutes.Router.Basic

/-!
# Calls that run at the same time

A call can be started without waiting for its reply. It then goes its own way in three steps: its
arguments are checked and its request is assembled, the request is sent, and the outcome is
classified. Between two steps of one call any number of steps of other calls can come. A call keeps
to itself what it works on; what all of them share is the session, that is the accessors and
providers and the transport.

## Main definitions

* `Progress`, `Route.advance` — how far a call has come, and its next step
* `Task` — a call that was started
* `Flight`, `Flight.run` — calls that run at the same time, by the order of their steps
-/

namespace MethodRoutes

open Json (Value)

/-- How far a call has come. -/
inductive Progress (ρ : Type) where
  /-- Nothing has been done. -/
  | started
  /-- The arguments fit, and the request is assembled. -/
  | assembled (request : Request)
  /-- The request has been sent, and the exchange is over. -/
  | answered (outcome : Outcome)
  /-- The reply is there. -/
  | finished (reply : Except RoutingError (Reply ρ))

namespace Progress

/-- Whether the reply is there. -/
def isFinished {ρ : Type} : Progress ρ → Bool
  | finished _ => true
  | started | assembled _ | answered _ => false

/-- How many steps are left at most. -/
def stepsLeft {ρ : Type} : Progress ρ → Nat
  | started => 3
  | assembled _ => 2
  | answered _ => 1
  | finished _ => 0

end Progress

variable {σ ρ : Type}

/-- The next step of a call. A call that has failed or has its reply takes no further steps. -/
def Route.advance (route : Route) (backend : Backend σ) (decoder : Decoder ρ) (args : List Value) :
    Progress ρ → StateM (Session σ) (Progress ρ)
  | .started =>
    match route.call args with
    | .error e => return .finished (.error e)
    | .ok call => do
      match ← Session.invoking (call.assemble backend.codec) with
      | .error e => return .finished (.error e)
      | .ok request => return .assembled request
  | .assembled request => do return .answered (← Session.send backend.transport request)
  | .answered outcome => return .finished (route.classify backend.codec decoder outcome)
  | .finished reply => return .finished reply

/-- A call that was started. -/
structure Task where
  /-- The type that the result is decoded into. -/
  Result : Type
  /-- How the result is decoded. -/
  decoder : Decoder Result
  /-- The route. -/
  route : Route
  /-- The arguments, which need not fit. -/
  args : List Value
  /-- How far the call has come. -/
  progress : Progress Result

namespace Task

/-- Start a call of a route. -/
def spawn {ρ : Type} (route : Route) (decoder : Decoder ρ) (args : List Value) : Task :=
  ⟨ρ, decoder, route, args, .started⟩

/-- Let the call take its next step. -/
def step (backend : Backend σ) (t : Task) (s : Session σ) : Task × Session σ :=
  let (progress, s) := t.route.advance backend t.decoder t.args t.progress s
  ({ t with progress }, s)

end Task

/-- Calls that run at the same time, and the session that they share. -/
structure Flight (σ : Type) where
  /-- The calls. -/
  tasks : List Task
  /-- The session. -/
  session : Session σ

namespace Flight

/-- Let the call at a position take its next step. -/
def step (backend : Backend σ) (f : Flight σ) (i : Nat) : Flight σ :=
  match f.tasks[i]? with
  | none => f
  | some t =>
    let (t, session) := t.step backend f.session
    ⟨f.tasks.set i t, session⟩

/-- Let calls take steps in the order of their positions in the schedule, in which a position can
occur any number of times. -/
def run (backend : Backend σ) (f : Flight σ) (schedule : List Nat) : Flight σ :=
  schedule.foldl (step backend) f

end Flight

end MethodRoutes

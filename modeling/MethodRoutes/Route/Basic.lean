import MethodRoutes.Destination.Parse
import MethodRoutes.Route.Source

/-!
# Routes

A route is the compiled form of a method: its destination is parsed, and every reference in it
is known to have something to refer to.

## Main definitions

* `Route` — a compiled method
* `CompileError` — why a method, or a set of methods, cannot be served
* `Route.compile` — compile a description
-/

namespace MethodRoutes

/-- A compiled method. -/
structure Route where
  /-- What the method is registered under. -/
  signature : Signature
  /-- The parsed destination. -/
  destination : Destination
  /-- The verb of the requests. -/
  verb : Verb
  /-- The position of the argument that is sent as the body. -/
  bodyIndex : Option Nat
  /-- The provider of the headers, if one is attached. -/
  provider : Option HeadersProvider
  /-- What is decoded on success. -/
  resultType : ResultType
  /-- How the caller sees the outcome. -/
  returnKind : ReturnKind
  /-- The declared parameters. -/
  parameters : List Parameter
  /-- The accessors that the destination invokes. -/
  accessors : Table String Accessor

/-- Why methods cannot be served. Each cause names the method. -/
inductive CompileError where
  /-- The destination has a malformed reference. -/
  | invalidDestination (method : Signature) (cause : SegmentError)
  /-- The destination refers to a parameter that is not declared. -/
  | parameterOutOfRange (method : Signature) (index count : Nat)
  /-- The destination refers to a parameter whose argument may be absent. -/
  | nullableParameter (method : Signature) (index : Nat)
  /-- More than one parameter is the body. -/
  | severalBodies (method : Signature)
  /-- The destination invokes an accessor that is not registered. -/
  | unknownAccessor (method : Signature) (name : String)
  /-- The signature is taken. -/
  | duplicate (method : Signature)
  deriving DecidableEq, Repr

namespace CompileError

/-- The method that is to blame. -/
def method : CompileError → Signature
  | invalidDestination m _ | parameterOutOfRange m _ _ | nullableParameter m _
  | severalBodies m | unknownAccessor m _ | duplicate m => m

/-- What is wrong with the method. -/
def reason : CompileError → String
  | invalidDestination _ cause => "invalid destination: " ++ cause.message
  | parameterOutOfRange _ index count =>
    "parameter index " ++ toString index ++ " out of range (" ++ toString count ++
      " parameters declared)"
  | nullableParameter _ index =>
    "nullable parameter " ++ toString index ++ " cannot be used in the destination"
  | severalBodies _ => "more than one body parameter"
  | unknownAccessor _ name => "no accessor named '" ++ name ++ "'"
  | duplicate _ => "declared more than once"

/-- The wording of the error. -/
def message (e : CompileError) : String := e.method.text ++ ": " ++ e.reason

end CompileError

namespace Route

/-- Check that a reference has a declared parameter whose argument is always there. -/
def checkParameter (m : Method) (index : Nat) : Except CompileError Unit :=
  match m.parameters[index]? with
  | none => .error (.parameterOutOfRange m.signature index m.parameters.length)
  | some p => if p.nullable then .error (.nullableParameter m.signature index) else .ok ()

/-- Add the accessor that a reference invokes to those that have been found. -/
def bindAccessor (m : Method) (b : Bindings) (found : Table String Accessor) (name : String) :
    Except CompileError (Table String Accessor) :=
  match b.accessors.get? name with
  | none => .error (.unknownAccessor m.signature name)
  | some accessor => .ok (found.insert name accessor)

/-- The positions of the body parameters. -/
def bodyPositions (parameters : List Parameter) : List Nat :=
  (parameters.zipIdx.filter fun p => p.1.body).map Prod.snd

/-- The only body parameter, if there is one. -/
def findBody (m : Method) : Except CompileError (Option Nat) :=
  match bodyPositions m.parameters with
  | [] => .ok none
  | [index] => .ok (some index)
  | _ => .error (.severalBodies m.signature)

/-- Compile a description. The destination is parsed, then its parameters are checked from left
to right, then its accessors, and at last the body parameter is located. Nothing is invoked. -/
def compile (m : Method) (b : Bindings) : Except CompileError Route := do
  let destination ← (Destination.parse m.destination).mapError (.invalidDestination m.signature)
  destination.parameters.forM (checkParameter m)
  let accessors ← destination.accessors.foldlM (bindAccessor m b) .empty
  let bodyIndex ← findBody m
  return {
    signature := m.signature
    destination
    verb := m.verb.getD .get
    bodyIndex
    provider := b.providers.get? m.signature
    resultType := m.resultType
    returnKind := m.returnKind
    parameters := m.parameters
    accessors }

end Route

end MethodRoutes

import MethodRoutes.Method.Verb

/-!
# Descriptions of methods

A method is described by its name and parameters, the verb and destination of its requests, and
what its caller gets back.

## Main definitions

* `ResultType`, `ReturnKind`, `Parameter`, `Method` — the parts of a description and the whole
* `Signature`, `Method.signature` — what tells overloads apart
* `Method.get`, `Method.post`, … , `Method.withParameter`, … — descriptions step by step
-/

namespace MethodRoutes

/-- How the caller sees the outcome of a call. -/
inductive ReturnKind where
  /-- As the bare value; whatever is no success is an error. -/
  | plain
  /-- As a wrapper with status and headers, also when the server turned the call down. -/
  | statusAware
  deriving DecidableEq, Repr

/-- What a call decodes on success. -/
inductive ResultType where
  /-- Nothing: the body of a response is ignored. -/
  | unit
  /-- A value of the type with this name. -/
  | value (typeName : String)
  deriving DecidableEq, Repr

/-- Whether nothing is decoded. -/
def ResultType.isUnit : ResultType → Bool
  | unit => true
  | value _ => false

/-- A declared parameter. -/
structure Parameter where
  /-- Its name. -/
  name : String
  /-- The name of its type. -/
  typeName : String
  /-- Whether its argument is the body of the request. -/
  body : Bool
  /-- Whether its argument may be absent. -/
  nullable : Bool
  deriving DecidableEq, Repr

namespace Parameter

/-- A parameter that is neither the body nor nullable. -/
def ofType (name typeName : String) : Parameter := ⟨name, typeName, false, false⟩

/-- A parameter that is a text. -/
def text (name : String) : Parameter := ofType name "String"

/-- The parameter as the body of the request. -/
def asBody (p : Parameter) : Parameter := { p with body := true }

/-- The parameter with an argument that may be absent. -/
def asNullable (p : Parameter) : Parameter := { p with nullable := true }

end Parameter

/-- What a method is registered under: its name and the types of its parameters. -/
structure Signature where
  /-- The signature as it is written, such as `find(String,u32)`. -/
  text : String
  deriving DecidableEq, Repr

/-- The description of a method. -/
structure Method where
  /-- Its name. -/
  name : String
  /-- Its parameters, in the order of the arguments. -/
  parameters : List Parameter
  /-- The verb of its requests, if one is declared. -/
  verb : Option Verb
  /-- The text of its destination. -/
  destination : String
  /-- How the caller sees the outcome. -/
  returnKind : ReturnKind
  /-- What is decoded on success. -/
  resultType : ResultType
  deriving DecidableEq, Repr

namespace Method

/-- A method without parameters, verb or result. -/
def bare (name destination : String) : Method := ⟨name, [], none, destination, .plain, .unit⟩

/-- Declare the verb. -/
def withVerb (m : Method) (verb : Verb) : Method := { m with verb := some verb }

/-- A bare method with the verb `GET`. -/
def get (name destination : String) : Method := (bare name destination).withVerb .get

/-- A bare method with the verb `POST`. -/
def post (name destination : String) : Method := (bare name destination).withVerb .post

/-- A bare method with the verb `PUT`. -/
def put (name destination : String) : Method := (bare name destination).withVerb .put

/-- A bare method with the verb `DELETE`. -/
def delete (name destination : String) : Method := (bare name destination).withVerb .delete

/-- Add a parameter after the others. -/
def withParameter (m : Method) (p : Parameter) : Method :=
  { m with parameters := m.parameters ++ [p] }

/-- Declare what is decoded on success. -/
def returning (m : Method) (result : ResultType) : Method := { m with resultType := result }

/-- Let the caller see status and headers. -/
def statusAware (m : Method) : Method := { m with returnKind := .statusAware }

/-- The signature: the name, and the types of the parameters between parentheses with commas
between them. -/
def signature (m : Method) : Signature :=
  ⟨m.name ++ "(" ++ ",".intercalate (m.parameters.map Parameter.typeName) ++ ")"⟩

end Method

end MethodRoutes

import MethodRoutes.Json.Record
import MethodRoutes.Method.Basic

/-!
# Method descriptions in JSON

A description is a record whose fields may be left out, except for the name and the destination.
It is written with all of them, the verb only if one is declared.

## Main definitions

* `Method.format` — how a description is read
* `Method.toJson` — how a description is written
-/

namespace MethodRoutes

open Json

/-- A return kind is written as its name. -/
def ReturnKind.format : Format ReturnKind :=
  .choice [("plain", .plain .plain), ("status_aware", .plain .statusAware)]

/-- The name of a return kind. -/
def ReturnKind.name : ReturnKind → String
  | plain => "plain"
  | statusAware => "status_aware"

/-- A result type is the bare name `unit`, or the name of a type under the name `value`. -/
def ResultType.format : Format ResultType :=
  .choice [("unit", .plain .unit), ("value", .withText .value)]

/-- A result type as a value. -/
def ResultType.toJson : ResultType → Value
  | unit => .string "unit"
  | value typeName => .object [("value", .string typeName)]

/-- The parts of a parameter that have been read. -/
structure Parameter.Draft where
  name : Option String
  typeName : Option String
  body : Option Bool
  nullable : Option Bool

/-- A parameter has a name and a type; it is neither the body nor nullable unless it says so. -/
def Parameter.record : Record Parameter.Draft Parameter where
  name := "Parameter"
  fields := [
    .of "name" false .text (·.name) fun d x => { d with name := some x },
    .of "type_name" false .text (·.typeName) fun d x => { d with typeName := some x },
    .of "body" true .bool (·.body) fun d x => { d with body := some x },
    .of "nullable" true .bool (·.nullable) fun d x => { d with nullable := some x }]
  start := ⟨none, none, none, none⟩
  finish d := do
    let name ← require "name" d.name
    let typeName ← require "type_name" d.typeName
    return ⟨name, typeName, d.body.getD false, d.nullable.getD false⟩

/-- The format of parameters. -/
def Parameter.format : Format Parameter := Parameter.record.format

/-- A parameter as a value. -/
def Parameter.toJson (p : Parameter) : Value :=
  .object [
    ("name", .string p.name),
    ("type_name", .string p.typeName),
    ("body", .bool p.body),
    ("nullable", .bool p.nullable)]

/-- The parts of a description that have been read. -/
structure Method.Draft where
  name : Option String
  parameters : Option (List Parameter)
  verb : Option (Option Verb)
  destination : Option String
  returnKind : Option ReturnKind
  resultType : Option ResultType

/-- A description has a name and a destination; without further fields it has no parameters,
no verb and no result, and returns the bare value. -/
def Method.record : Record Method.Draft Method where
  name := "MethodMetadata"
  fields := [
    .of "name" false .text (·.name) fun d x => { d with name := some x },
    .of "parameters" true (.list Parameter.format) (·.parameters)
      fun d x => { d with parameters := some x },
    .of "verb" true (.option Verb.format) (·.verb) fun d x => { d with verb := some x },
    .of "destination" false .text (·.destination) fun d x => { d with destination := some x },
    .of "return_kind" true ReturnKind.format (·.returnKind)
      fun d x => { d with returnKind := some x },
    .of "result_type" true ResultType.format (·.resultType)
      fun d x => { d with resultType := some x }]
  start := ⟨none, none, none, none, none, none⟩
  finish d := do
    let name ← require "name" d.name
    let destination ← require "destination" d.destination
    return ⟨name, d.parameters.getD [], d.verb.getD none, destination,
      d.returnKind.getD .plain, d.resultType.getD .unit⟩

/-- The format of descriptions. -/
def Method.format : Format Method := Method.record.format

/-- A description as a value. A verb that is not declared is left out. -/
def Method.toJson (m : Method) : Value :=
  .object (
    [("name", .string m.name), ("parameters", .array (m.parameters.map Parameter.toJson))] ++
    (m.verb.toList.map fun verb => ("verb", .string verb.name)) ++
    [("destination", .string m.destination), ("return_kind", .string m.returnKind.name),
      ("result_type", m.resultType.toJson)])

end MethodRoutes

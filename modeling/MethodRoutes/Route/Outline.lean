import MethodRoutes.Route.Basic
import MethodRoutes.Text.Quoted

/-!
# Routes in diagnostics

## Main definitions

* `Route.outline` — a route on one line, without its parameters and accessors
-/

namespace MethodRoutes

open Text

/-- A named group of fields on one line. -/
def outlineFields (name : String) (fields : List (String × String)) : String :=
  name ++ " \x7b " ++ ", ".intercalate (fields.map fun f => f.1 ++ ": " ++ f.2) ++ " \x7d"

/-- A segment on one line. -/
def Segment.outline : Segment → String
  | .literal text => "Literal(" ++ quoted text ++ ")"
  | .parameter index => "ParamRef(" ++ toString index ++ ")"
  | .accessor name => "MethodCall(" ++ quoted name ++ ")"

/-- A result type on one line. -/
def ResultType.outline : ResultType → String
  | .unit => "Unit"
  | .value typeName => "Value(" ++ quoted typeName ++ ")"

/-- A return kind on one line. -/
def ReturnKind.outline : ReturnKind → String
  | .plain => "Plain"
  | .statusAware => "StatusAware"

/-- A route on one line. -/
def Route.outline (r : Route) : String :=
  outlineFields "RouteDescriptor" [
    ("method_id", "MethodId(" ++ quoted r.signature.text ++ ")"),
    ("notation", outlineFields "Notation"
      [("segments", "[" ++ ", ".intercalate (r.destination.segments.map Segment.outline) ++ "]")]),
    ("verb", r.verb.name),
    ("body_index", match r.bodyIndex with
      | some index => "Some(" ++ toString index ++ ")"
      | none => "None"),
    ("headers_provider", toString r.provider.isSome),
    ("result_type", r.resultType.outline),
    ("return_kind", r.returnKind.outline)]

end MethodRoutes

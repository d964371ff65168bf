import MethodRoutes.Json.Format

/-!
# Verbs

## Main definitions

* `Verb` — the request methods that a route can use
* `Verb.name`, `Verb.ofName?` — their names
* `Verb.isToken` — what a protocol admits as the name of a request method
-/

namespace MethodRoutes

/-- A request method that a route can use. -/
inductive Verb where
  | get
  | post
  | put
  | delete
  | patch
  | head
  | options
  deriving DecidableEq, Repr

namespace Verb

instance : Inhabited Verb := ⟨get⟩

/-- All verbs. -/
def all : List Verb := [get, post, put, delete, patch, head, options]

/-- The name of a verb on the wire. -/
def name : Verb → String
  | get => "GET"
  | post => "POST"
  | put => "PUT"
  | delete => "DELETE"
  | patch => "PATCH"
  | head => "HEAD"
  | options => "OPTIONS"

/-- The verb with a name. -/
def ofName? (name : String) : Option Verb := all.find? fun v => v.name = name

theorem ofName?_name (v : Verb) : ofName? v.name = some v := by cases v <;> decide

/-- Whether a character may stand in the name of a request method or of a header. -/
def isTokenChar (c : Char) : Bool := c.isAlphanum || "!#$%&'*+-.^_`|~".toList.contains c

/-- Whether a text can be the name of a request method: a token, which need not be a verb. -/
def isToken (name : String) : Bool := !name.isEmpty && name.toList.all isTokenChar

/-- A verb is written as its name. -/
def format : Json.Format Verb :=
  .choice (all.map fun v => (v.name, .plain v))

end Verb

end MethodRoutes

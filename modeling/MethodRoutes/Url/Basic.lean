import MethodRoutes.Url.Host

/-!
# URLs

## Main definitions

* `Url` — the parts of an absolute URL
* `Url.render` — its normalized text
* `Url.cannotBeBase` — whether nothing can be relative to it
* `Url.withoutUserInfo` — the URL without user name and password
-/

namespace MethodRoutes

/-- What stands between the two slashes after a scheme and the path. -/
structure Authority where
  /-- The user name. -/
  username : String
  /-- The password. -/
  password : Option String
  /-- The host; none if it is empty. -/
  host : Option Host
  /-- The number after the host, unless it is the usual one of the scheme. -/
  portNumber : Option Nat
  deriving DecidableEq, Repr

/-- The path of a URL. -/
inductive UrlPath where
  /-- Segments, each with a slash before it. -/
  | rooted (segments : List String)
  /-- A text that does not start with a slash. -/
  | bare (text : String)
  deriving DecidableEq, Repr

/-- An absolute URL. -/
structure Url where
  /-- The scheme, in lowercase. -/
  scheme : String
  /-- The authority, if there is one. -/
  authority : Option Authority
  /-- The path. -/
  path : UrlPath
  /-- The query, after its question mark. -/
  query : Option String
  /-- The fragment, after its number sign. -/
  fragment : Option String
  deriving DecidableEq, Repr

/-- The text of an authority. -/
def Authority.render (a : Authority) : String :=
  let user := a.username ++ (a.password.map (":" ++ ·)).getD ""
  "//" ++ (if user.isEmpty then "" else user ++ "@") ++ (a.host.map Host.render).getD "" ++
    (a.portNumber.map fun p => ":" ++ toString p).getD ""

/-- The text of a path. -/
def UrlPath.render : UrlPath → String
  | rooted segments => String.join (segments.map ("/" ++ ·))
  | bare text => text

namespace Url

/-- The text of a URL. Without an authority, a path that starts with two slashes is kept apart
from one by a segment that means nothing. -/
def render (u : Url) : String :=
  let path := u.path.render
  let hierarchy := match u.authority with
    | some a => a.render ++ path
    | none => if path.startsWith "//" then "/." ++ path else path
  u.scheme ++ ":" ++ hierarchy ++ (u.query.map ("?" ++ ·)).getD "" ++
    (u.fragment.map ("#" ++ ·)).getD ""

/-- Whether nothing can be relative to the URL: no slash follows its scheme. -/
def cannotBeBase (u : Url) : Bool :=
  match u.authority, u.path with
  | none, .bare _ => true
  | _, _ => false

/-- The host of the URL. -/
def host? (u : Url) : Option Host := u.authority.bind Authority.host

/-- The URL without user name and password. -/
def withoutUserInfo (u : Url) : Url :=
  { u with authority := u.authority.map fun a => { a with username := "", password := none } }

end Url

end MethodRoutes

import MethodRoutes.Url.Path

/-!
# Reading URLs

A text is read as an absolute URL the way browsers do: blanks around it and line ends inside it
are ignored, a backslash counts as a slash after a scheme of the web, and the parts are escaped
and normalized.

## Main definitions

* `SchemeKind` — schemes of the web, the scheme of files, and all others
* `Url.parse` — the URL in a text
-/

namespace MethodRoutes

/-- How the text after a scheme is read. -/
inductive SchemeKind where
  /-- The scheme of files. -/
  | file
  /-- A scheme of the web, which needs a host. -/
  | web
  /-- Any other scheme. -/
  | foreign
  deriving DecidableEq, Repr

namespace SchemeKind

/-- The schemes of the web, and the number that usually follows their hosts. -/
def webPorts : List (String × Nat) :=
  [("http", 80), ("https", 443), ("ws", 80), ("wss", 443), ("ftp", 21)]

/-- The kind of a scheme. -/
def ofScheme (scheme : String) : SchemeKind :=
  if scheme = "file" then file
  else if (webPorts.lookup scheme).isSome then web
  else foreign

/-- Whether a backslash counts as a slash. -/
def isSpecial : SchemeKind → Bool
  | foreign => false
  | _ => true

/-- Whether a character counts as a slash. -/
def isSlash (kind : SchemeKind) (c : Char) : Bool := c = '/' || (kind.isSpecial && c = '\\')

/-- Whether a character ends the authority. -/
def endsAuthority (kind : SchemeKind) (c : Char) : Bool := kind.isSlash c || c = '?' || c = '#'

end SchemeKind

namespace Url

/-- The part of a text that is read: without blanks and control characters around it, and
without tabs and line ends inside. -/
def significant (text : List Char) : List Char :=
  let isOuter (c : Char) : Bool := c.toNat ≤ 0x20
  ((text.dropWhile isOuter).reverse.dropWhile isOuter).reverse.filter
    fun c => c ≠ '\t' && c ≠ '\n' && c ≠ '\r'

/-- The scheme at the start of a text, in lowercase, and what follows its colon. -/
def splitScheme? (text : List Char) : Option (String × List Char) :=
  let isSchemeChar (c : Char) : Bool := c.isAlphanum || c = '+' || c = '-' || c = '.'
  match text with
  | [] => none
  | c :: _ =>
    if c.isAlpha then
      match text.dropWhile isSchemeChar with
      | ':' :: rest => some (String.ofList ((text.takeWhile isSchemeChar).map Char.toLower), rest)
      | _ => none
    else none

/-- Split a text before the first character that satisfies a condition. -/
def splitBefore (p : Char → Bool) (text : List Char) : List Char × List Char :=
  (text.takeWhile (!p ·), text.dropWhile (!p ·))

/-- Split a text around the last place where a character stands. -/
def splitAtLast? (mark : Char) (text : List Char) : Option (List Char × List Char) :=
  match (splitBefore (· = mark) text.reverse) with
  | (after, _ :: before) => some (before.reverse, after.reverse)
  | (_, []) => none

/-- User name and password. An empty password after a colon is no password. -/
def userInfoOf (text : List Char) : String × Option String :=
  let (name, rest) := splitBefore (· = ':') text
  let encode (part : List Char) : String := String.ofList (EscapeSet.userInfo.encode part)
  (encode name, if rest.length ≤ 1 then none else some (encode (rest.drop 1)))

/-- User name and password at the start of an authority, and what follows the sign after them.
That sign is the last one in the authority. -/
def readUserInfo (kind : SchemeKind) (text : List Char) :
    Except UrlError (String × Option String × List Char) :=
  let (authority, rest) := splitBefore kind.endsAuthority text
  match splitAtLast? '@' authority with
  | none => .ok ("", none, text)
  | some (info, after) =>
    if info.isEmpty then
      -- Nothing before the sign is no user name, but then there has to be a host.
      if after.isEmpty && !rest.isEmpty then .error .emptyHost else .ok ("", none, after ++ rest)
    else
      let (name, password) := userInfoOf info
      .ok (name, password, after ++ rest)

/-- The length of the host at the start of a text: up to a colon outside of brackets, or to the
end of the authority. -/
def hostLength (kind : SchemeKind) (bracketed : Bool) : List Char → Nat
  | [] => 0
  | c :: rest =>
    if (c = ':' && !bracketed) || kind.endsAuthority c then 0
    else hostLength kind (if c = '[' then true else if c = ']' then false else bracketed) rest + 1

/-- The host at the start of a text, and what follows it. A host of the web is not empty; any
other host is, if nothing stands there. -/
def readHost (kind : SchemeKind) (text : List Char) : Except UrlError (Option Host × List Char) :=
  let n := hostLength kind false text
  let rest := text.drop n
  if kind = .foreign then do
    let host ← Host.ofForeignText (text.take n)
    if host = .named "" then
      if rest.head? = some ':' then .error .emptyHost else return (none, rest)
    else return (some host, rest)
  else if n = 0 then .error .emptyHost
  else do return (some (← Host.ofText (text.take n)), rest)

/-- The number in a row of digits that ends an authority, if there are digits. -/
def readPortNumber (text : List Char) : Except UrlError (Option Nat × List Char) :=
  let (digits, rest) := splitBefore (!Char.isDigit ·) text
  let number := (numberInBase? 10 digits).getD 0
  let ends := match rest with
    | [] => true
    | c :: _ => c = '/' || c = '\\' || c = '?' || c = '#'
  if 65535 < number || !ends then .error .invalidPort
  else .ok (if digits.isEmpty then none else some number, rest)

/-- The authority at the start of a text, and what follows it. -/
def readAuthority (scheme : String) (kind : SchemeKind) (text : List Char) :
    Except UrlError (Authority × List Char) := do
  let (username, password, rest) ← readUserInfo kind text
  let (host, rest) ← readHost kind rest
  let (number, rest) ← match rest with
    | ':' :: rest => readPortNumber rest
    | _ => .ok (none, rest)
  if host.isNone && !(username.isEmpty && password.isNone) then .error .emptyHost
  else
    let number := if number = SchemeKind.webPorts.lookup scheme then none else number
    return (⟨username, password, host, number⟩, rest)

/-- Split a text into path, query and fragment. -/
def splitParts (text : List Char) : List Char × Option (List Char) × Option (List Char) :=
  let (path, rest) := splitBefore (fun c => c = '?' || c = '#') text
  match rest with
  | '?' :: rest =>
    let (query, rest) := splitBefore (· = '#') rest
    (path, some query, match rest with
      | _ :: fragment => some fragment
      | [] => none)
  | _ :: fragment => (path, none, some fragment)
  | [] => (path, none, none)

/-- The segments in a text, where slashes separate them. -/
def segmentsOf (kind : SchemeKind) (text : List Char) : List (List Char) :=
  partsAt '/' (text.map fun c => if kind.isSlash c then '/' else c)

/-- The path in a text after an authority. After a scheme of the web there is always one. -/
def readPath (kind : SchemeKind) (text : List Char) : UrlPath :=
  match text with
  | [] => if kind.isSpecial then .rooted [""] else .rooted []
  | c :: rest =>
    UrlPath.ofSegments (kind = .file) (segmentsOf kind (if kind.isSlash c then rest else text))

/-- A URL whose path, query and fragment are in a text. -/
def assemble (scheme : String) (kind : SchemeKind) (authority : Option Authority)
    (path : List Char → UrlPath) (text : List Char) : Url :=
  let (pathText, query, fragment) := splitParts text
  let querySet := if kind.isSpecial then EscapeSet.webQuery else EscapeSet.query
  { scheme
    authority
    path := path pathText
    query := query.map fun q => String.ofList (querySet.encode q)
    fragment := fragment.map fun f => String.ofList (EscapeSet.fragment.encode f) }

/-- The host of a file. That of the own machine is as good as none. -/
def readFileHost (text : List Char) : Except UrlError (Option Host × List Char) :=
  let (host, rest) := splitBefore SchemeKind.file.endsAuthority text
  if UrlPath.isDriveLetter host then .ok (none, text)
  else if host.isEmpty then .ok (none, rest)
  else do
    let host ← Host.ofText host
    return (if host = .named "localhost" then none else some host, rest)

/-- The URL of a file: its host, if two slashes come first, and its path. -/
def readFile (text : List Char) : Except UrlError Url := do
  let url (host : Option Host) (rest : List Char) : Url :=
    assemble "file" .file (some ⟨"", none, host, none⟩) (readPath .file) rest
  match text with
  | a :: b :: rest =>
    if SchemeKind.file.isSlash a && SchemeKind.file.isSlash b then
      let (host, rest) ← readFileHost rest
      return url host rest
    else return url none text
  | _ => return url none text

/-- The URL after a scheme that is none of the web: with an authority after two slashes, and else
with a path that may start with a slash. -/
def readForeign (scheme : String) (text : List Char) : Except UrlError Url :=
  match text with
  | '/' :: '/' :: rest => do
    let (authority, rest) ← readAuthority scheme .foreign rest
    return assemble scheme .foreign (some authority) (readPath .foreign) rest
  | '/' :: _ => .ok (assemble scheme .foreign none (readPath .foreign) text)
  | _ =>
    let path (t : List Char) : UrlPath := .bare (String.ofList (EscapeSet.controls.encode t))
    .ok (assemble scheme .foreign none path text)

/-- The URL in a text. -/
def parse (text : String) : Except UrlError Url :=
  match splitScheme? (significant text.toList) with
  | none => .error .noScheme
  | some (scheme, rest) =>
    match SchemeKind.ofScheme scheme with
    | .file => readFile rest
    | .foreign => readForeign scheme rest
    | .web => do
      let (authority, rest) ← readAuthority scheme .web (rest.dropWhile SchemeKind.web.isSlash)
      return assemble scheme .web (some authority) (readPath .web) rest

end Url

end MethodRoutes

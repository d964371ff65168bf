import MethodRoutes.Domain.Name
import MethodRoutes.Url.Address

/-!
# Hosts

After a scheme of the web the host is a domain name, an IPv4 address, or a bracketed IPv6
address. After any other scheme a host without brackets is taken as it stands.

## Main definitions

* `Host` — the host of a URL
* `Host.ofText`, `Host.ofForeignText` — the host in a text, for both kinds of schemes
* `Host.render` — the text of a host
-/

namespace MethodRoutes

/-- The host of a URL. -/
inductive Host where
  /-- A domain name, or a host that is taken as it stands. -/
  | named (name : String)
  /-- An address of 32 bits. -/
  | ipv4 (address : Nat)
  /-- Eight groups of 16 bits. -/
  | ipv6 (groups : List Nat)
  deriving DecidableEq, Repr

namespace Host

/-- The text of a host. -/
def render : Host → String
  | named name => name
  | ipv4 address => Ipv4.render address
  | ipv6 groups => "[" ++ Ipv6.render groups ++ "]"

/-- The address between brackets, if the text starts with one. -/
def bracketed? (text : List Char) : Option (Except UrlError Host) :=
  match text with
  | '[' :: rest =>
    if rest.getLast? = some ']' then
      match Ipv6.ofText? rest.dropLast with
      | some groups => some (.ok (ipv6 groups))
      | none => some (.error .invalidIpv6)
    else some (.error .invalidIpv6)
  | _ => none

/-- The host in a text after a scheme of the web. -/
def ofText (text : List Char) : Except UrlError Host :=
  match bracketed? text with
  | some result => result
  | none =>
    match (Bytes.text? (percentDecode text)).bind (Domain.ofText? ·.toList) with
    | none => .error .invalidDomain
    | some domain =>
      if domain.isEmpty then .error .emptyHost
      else if endsInNumber domain then
        match Ipv4.ofText? domain with
        | some address => .ok (ipv4 address)
        | none => .error .invalidIpv4
      else .ok (named (String.ofList domain))

/-- Whether a character cannot stand in a host that is taken as it stands. -/
def isForbidden (c : Char) : Bool := "\x00\t\n\r #/:<>?@[\\]^|".toList.contains c

/-- The host in a text after a scheme that is none of the web. -/
def ofForeignText (text : List Char) : Except UrlError Host :=
  match bracketed? text with
  | some result => result
  | none =>
    if text.any isForbidden then .error .forbiddenCharacter
    else .ok (named (String.ofList (EscapeSet.controls.encode text)))

end Host

end MethodRoutes

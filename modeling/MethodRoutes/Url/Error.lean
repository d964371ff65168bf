/-!
# Malformed URLs

## Main definitions

* `UrlError` — why a text is no absolute URL
-/

namespace MethodRoutes

/-- Why a text is no absolute URL. -/
inductive UrlError where
  /-- There is no scheme. -/
  | noScheme
  /-- A host is needed and there is none. -/
  | emptyHost
  /-- What follows the host after a colon is no number below `2 ^ 16`. -/
  | invalidPort
  /-- The host ends like an IPv4 address but is none. -/
  | invalidIpv4
  /-- The host is bracketed like an IPv6 address but is none. -/
  | invalidIpv6
  /-- The host has no form as a domain name. -/
  | invalidDomain
  /-- A host that is taken as it stands has a character that no host may have. -/
  | forbiddenCharacter
  deriving DecidableEq, Repr

/-- The wording of the error. -/
def UrlError.message : UrlError → String
  | noScheme => "relative URL without a base"
  | emptyHost => "empty host"
  | invalidPort => "invalid port number"
  | invalidIpv4 => "invalid IPv4 address"
  | invalidIpv6 => "invalid IPv6 address"
  | invalidDomain => "invalid international domain name"
  | forbiddenCharacter => "invalid domain character"

end MethodRoutes

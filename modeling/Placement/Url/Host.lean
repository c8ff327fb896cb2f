import Placement.Url.Ipv6
import Placement.Url.Percent
import Placement.Url.Scheme

/-!
# Hosts

A host in brackets is a version 6 address. Otherwise a special scheme has a domain name, decoded,
in small letters and possibly a version 4 address in disguise, while any other scheme has an opaque
name that is only checked and encoded.

Domain names are ASCII here and no international names are read: one with other characters is
refused like one with a forbidden character, and a label that begins with `xn--` is a label like
any other, whatever it would decode to.
-/

namespace Placement

/-- Why a text is no address. -/
inductive UrlError
  | missingScheme
  | emptyHost
  | invalidDomain
  | invalidIpv4
  | invalidIpv6
  | invalidHostCharacter
  | invalidPort
  deriving DecidableEq, Repr

/-- The wording of a cause. -/
def UrlError.message : UrlError → Text
  | missingScheme => "relative URL without a base".toList
  | emptyHost => "empty host".toList
  | invalidDomain => "invalid international domain name".toList
  | invalidIpv4 => "invalid IPv4 address".toList
  | invalidIpv6 => "invalid IPv6 address".toList
  | invalidHostCharacter => "invalid domain character".toList
  | invalidPort => "invalid port number".toList

/-- A host as it is kept. The empty name is the empty host. -/
inductive Host
  | name (text : Text)
  | ipv4 (address : Nat)
  | ipv6 (pieces : List Nat)
  deriving DecidableEq, Repr

namespace Host

/-- No host. -/
def empty : Host := name []

/-- The host without brackets. -/
def bare : Host → Text
  | name text => text
  | ipv4 address => Ipv4.render address
  | ipv6 pieces => Ipv6.render pieces

/-- The host as it stands in an address. -/
def render : Host → Text
  | ipv6 pieces => ['['] ++ Ipv6.render pieces ++ [']']
  | host => host.bare

/-- A version 6 address with its brackets. -/
def ofBracketed (t : Text) : Except UrlError Host :=
  if t.getLast? = some ']' then
    match Ipv6.ofText? (t.drop 1).dropLast with
    | some pieces => .ok (ipv6 pieces)
    | none => .error .invalidIpv6
  else .error .invalidIpv6

/-- The characters that no opaque name holds. -/
def isForbidden (c : Char) : Bool :=
  ['\x00', '\t', '\n', '\r', ' ', '#', '/', ':', '<', '>', '?', '@', '[', '\\', ']', '^',
    '|'].contains c

/-- The characters that no domain name holds. -/
def isForbiddenInDomain (c : Char) : Bool :=
  Percent.isControl c || isForbidden c || c == '%' || 0x80 ≤ c.toNat

/-- The host of a scheme that is not special. -/
def ofOpaque (t : Text) : Except UrlError Host :=
  if t.head? = some '[' then ofBracketed t
  else if t.any isForbidden then .error .invalidHostCharacter
  else .ok (name (Percent.encode Percent.isControl t))

/-- The host of a special scheme. -/
def ofDomain (t : Text) : Except UrlError Host :=
  if t.head? = some '[' then ofBracketed t
  else
    let domain := Text.lower ((Percent.decode t).map fun b ↦ Char.ofNat b.toNat)
    if domain.any isForbiddenInDomain then .error .invalidDomain
    else if domain.isEmpty then .error .emptyHost
    else if Ipv4.endsInNumber domain then
      match Ipv4.ofText? domain with
      | some address => .ok (ipv4 address)
      | none => .error .invalidIpv4
    else .ok (name domain)

end Host

end Placement

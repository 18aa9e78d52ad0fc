import DataMax.Domain.Text
import DataMax.Library.IpAddress

/-! The scheme and the host of a parsed url. Names are in lower case, addresses in one spelling, and IPv6 in brackets. -/

namespace DataMax.Domain

open Library

/-- The characters that hosts are made of. -/
def isHostChar (ch : Char) : Bool := !isWhitespace ch && ch != '[' && ch != ']' && ch.toLower == ch

structure DomainName where
  text : String
  filled : text ≠ ""
  plain : ∀ ch ∈ text.toList, isHostChar ch
  named : parseIpAddress text = none

structure Ipv6Literal where
  address : Ipv6
  text : String
  plain : ∀ ch ∈ text.toList, isHostChar ch
  spelled : parseIpAddress text = some (.v6 address)

inductive UrlHost where
  | domain (name : DomainName)
  | ipv4 (address : Ipv4)
  | ipv6 (literal : Ipv6Literal)

namespace UrlHost

/-- `Url::host_str` -/
def text : UrlHost → String
  | domain name => name.text
  | ipv4 address => address.text
  | ipv6 literal => "[" ++ literal.text ++ "]"

def address : UrlHost → Option IpAddress
  | domain _ => none
  | ipv4 address => some (.v4 address)
  | ipv6 literal => some (.v6 literal.address)

/-- The names of the machine itself, with or without the dot of the root. -/
def isLocalhostName : UrlHost → Bool
  | domain name => ["localhost", "localhost."].contains name.text || endsWith name.text ".localhost" ||
      endsWith name.text ".localhost."
  | _ => false

/-- Literals and names of the machine itself. -/
def isLoopback (host : UrlHost) : Bool :=
  (host.address.any fun address => address.unmapped.isLoopback) || host.isLocalhostName

end UrlHost

structure Url where
  scheme : String
  host : Option UrlHost

def Url.hostStr (url : Url) : Option String := url.host.map UrlHost.text

end DataMax.Domain

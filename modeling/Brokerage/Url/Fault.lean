/-!
# Faults of URLs

Why a text is no URL.
-/

namespace Brokerage

/-- Why a text is no URL. -/
inductive Url.Fault where
  /-- The host is missing where there has to be one. -/
  | emptyHost
  /-- The host is no domain name. -/
  | domainName
  /-- The port is no number below 65536. -/
  | port
  /-- The host looks like an address of four bytes and is none. -/
  | ipv4
  /-- The host stands in brackets and is no address. -/
  | ipv6
  /-- The host holds a character that no host may hold. -/
  | hostCharacter
  /-- There is no scheme, and nothing that the text could be relative to. -/
  | relativeWithoutBase
  /-- There is no scheme, and a base that nothing can be relative to. -/
  | relativeToRootless
  deriving DecidableEq, Repr

/-- The wording of a fault. -/
def Url.Fault.message : Url.Fault → String
  | .emptyHost => "empty host"
  | .domainName => "invalid international domain name"
  | .port => "invalid port number"
  | .ipv4 => "invalid IPv4 address"
  | .ipv6 => "invalid IPv6 address"
  | .hostCharacter => "invalid domain character"
  | .relativeWithoutBase => "relative URL without a base"
  | .relativeToRootless => "relative URL with a cannot-be-a-base base"

end Brokerage

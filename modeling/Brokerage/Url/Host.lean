import Brokerage.Url.Address
import Brokerage.Url.Domain
import Brokerage.Url.Fault
import Brokerage.Url.Percent

/-!
# Hosts

Where a URL points: a name or an address. What the name of a web address may be is settled by the
rules for domain names; other schemes take any name without delimiters.
-/

namespace Brokerage

/-- What stands for a machine in a URL. -/
inductive Host where
  /-- A name; empty if the URL names no machine. -/
  | named (name : String)
  /-- An address of four bytes, as one number. -/
  | ipv4 (address : Nat)
  /-- An address of eight pieces. -/
  | ipv6 (pieces : List Nat)
  deriving DecidableEq, Repr

namespace Host

/-- The host as it stands in a URL. -/
def write : Host → String
  | .named name => name
  | .ipv4 address => Address.writeIpv4 address
  | .ipv6 pieces => "[" ++ Address.writeIpv6 pieces ++ "]"

/-- True of the host that is no machine. -/
def isEmpty : Host → Bool
  | .named name => name == ""
  | _ => false

/-- The address in brackets, whose closing bracket has to be the last character. -/
def readBracketed (cs : List Char) : Except Url.Fault Host :=
  match cs.getLast? with
  | some ']' =>
    match Address.ipv6? cs.dropLast with
    | some pieces => .ok (.ipv6 pieces)
    | none => .error .ipv6
  | _ => .error .ipv6

/-- The host of a web address. A name whose last part is a number is an address of four bytes. -/
def readWeb (cs : List Char) : Except Url.Fault Host :=
  match cs with
  | '[' :: rest => readBracketed rest
  | cs =>
    match Domain.toAscii? Domain.isForbidden (Percent.decode (String.ofList cs)) with
    | none => .error .domainName
    | some [] => .error .emptyHost
    | some name =>
      if Address.endsInNumber name then
        match Address.ipv4? name with
        | some address => .ok (.ipv4 address)
        | none => .error .ipv4
      else .ok (.named (String.ofList name))

/-- True of the characters that no host may hold. -/
def isForbidden (c : Char) : Bool :=
  c = '\x00' || "\t\n\r #/:<>?@[\\]^|".toList.contains c

/-- The host of any other URL: a name whose controls and characters beyond ASCII are escaped. -/
def readPlain (cs : List Char) : Except Url.Fault Host :=
  match cs with
  | '[' :: rest => readBracketed rest
  | cs =>
    if cs.any isForbidden then .error .hostCharacter
    else .ok (.named (Percent.encode Percent.controls (String.ofList cs)))

end Host

end Brokerage

import Courier.Url.Address
import Courier.Url.Domain
import Courier.Url.Scheme

/-!
# Hosts

The host of a special scheme is a domain name or an address; every other host is kept as it is
written, with escapes.
-/

namespace Courier.Url

inductive Host
  | empty
  | domain (name : Text)
  | ipv4 (address : Nat)
  | ipv6 (pieces : List Nat)
  | verbatim (text : Text)
  deriving DecidableEq, Repr

namespace Host

def text : Host → Text
  | .empty => []
  | .domain name => name
  | .ipv4 address => Ipv4.text address
  | .ipv6 pieces => '[' :: (Ipv6.text pieces ++ [']'])
  | .verbatim t => t

/-- Reads an address between brackets; the opening one is passed already. -/
def bracketed? (t : Text) : Option Host :=
  if t.getLast? = some ']' then (Ipv6.parse? t.dropLast).map .ipv6 else none

/-- Reads the host of a special scheme. -/
def parseSpecial? : Text → Option Host
  | '[' :: t => bracketed? t
  | t => do
    let decoded ← Utf8.decode? (Percent.decode t)
    let name ← Domain.toAscii? decoded
    if name.isEmpty then none
    else if Ipv4.endsInNumber name then (Ipv4.parse? name).map .ipv4
    else return .domain name

def isForbidden (c : Char) : Bool :=
  c ∈ ['\x00', '\t', '\n', '\r', ' ', '#', '/', ':', '<', '>', '?', '@', '[', '\\', ']', '^', '|']

/-- Reads the host of a scheme that is not special. -/
def parseOther? : Text → Option Host
  | [] => some .empty
  | '[' :: t => bracketed? t
  | t => if t.any isForbidden then none else some (.verbatim (Percent.encode Percent.isPlain t))

end Host

end Courier.Url

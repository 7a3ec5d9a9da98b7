import RunnerDispatch.Idna.Domain
import RunnerDispatch.Url.Address
import RunnerDispatch.Url.Fault
import RunnerDispatch.Url.Percent

/-!
# Hosts

* `Host`: a name, an IPv4 address or an IPv6 address.
* `Host.read`: the host of a URL whose scheme is special; **its name is a domain name in ASCII, and one
  that ends in a number is an address**.
* `Host.readOpaque`: the host of another URL, whose name is kept.
-/

namespace RunnerDispatch.Url

/-- Where a URL leads. -/
inductive Host
  | name (text : String)
  | ipv4 (address : Nat)
  | ipv6 (groups : List Nat)
  deriving DecidableEq, Repr

namespace Host

/-- A host as it stands in a URL. -/
def text : Host → String
  | name text => text
  | ipv4 address => Ipv4.text address
  | ipv6 groups => "[" ++ Ipv6.text groups ++ "]"

/-- A host as it is looked up. -/
def bare : Host → String
  | ipv6 groups => Ipv6.text groups
  | host => host.text

/-- An address in brackets. -/
def readBracketed (inside : List Char) : Except Fault Host :=
  if inside.getLast? ≠ some ']' then .error .invalidIpv6
  else
    match Ipv6.read? inside.dropLast with
    | some groups => .ok (ipv6 groups)
    | none => .error .invalidIpv6

/-- The characters that are escaped in a host. -/
def unescaped? (cs : List Char) : Option (List Char) :=
  (Bytes.toString? (Percent.decode (Bytes.ofString (String.ofList cs)))).map String.toList

/-- The host that is written by a domain name. -/
def ofDomain (domain : List Char) : Except Fault Host :=
  if domain.isEmpty then .error .emptyHost
  else if Ipv4.looksNumeric domain then
    match Ipv4.read? domain with
    | some address => .ok (ipv4 address)
    | none => .error .invalidIpv4
  else .ok (name (String.ofList domain))

/-- **The host of a special URL.** -/
def read (cs : List Char) : Except Fault Host :=
  match cs with
  | '[' :: inside => readBracketed inside
  | _ =>
    match unescaped? cs >>= Idna.toAscii? with
    | some domain => ofDomain domain
    | none => .error .invalidDomain

/-- Characters that no host holds. -/
def isForbidden (c : Char) : Bool := c.toNat == 0 || "\t\n\r #/:<>?@[\\]^|".contains c

/-- **The host of a URL whose scheme is not special.** -/
def readOpaque (cs : List Char) : Except Fault Host :=
  match cs with
  | '[' :: inside => readBracketed inside
  | _ =>
    if cs.any isForbidden then .error .invalidHostCharacter
    else .ok (name (String.ofList (Percent.encode Percent.inAnyPart cs)))

end Host

end RunnerDispatch.Url

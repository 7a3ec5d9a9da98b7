import RunnerDispatch.Net.SocketAddress
import RunnerDispatch.Url.Address

/-!
# Listening

* `SocketAddress.text`: an address as it is written.
* `resolve?`: the address that a text denotes, by its numbers or by the name of the host itself.
* `Host.bind?`: **the address that a service gets to listen at**, if nobody else does.
-/

namespace RunnerDispatch.Net

namespace Ip

/-- Whether an address stands for all addresses of the host. -/
def isUnspecified : Ip → Bool
  | v4 bytes => bytes.all (· == 0)
  | v6 groups _ => groups.all (· == 0)

/-- An address as it is written. The last bytes of one that stands for an IPv4 address are written as
its bytes. -/
def text : Ip → String
  | v4 bytes => ".".intercalate (bytes.map toString)
  | v6 groups scope =>
    let address := match groups with
      | [0, 0, 0, 0, 0, 0xFFFF, high, low] => "::ffff:" ++ Url.Ipv4.text (high * 65536 + low)
      | _ => Url.Ipv6.text groups
    "[" ++ address ++ (if scope = 0 then "" else "%" ++ toString scope) ++ "]"

end Ip

/-- An address as it is written. -/
def SocketAddress.text (a : SocketAddress) : String := a.ip.text ++ ":" ++ toString a.port

/-- The loopback address at a port. -/
def loopback (port : Nat) : SocketAddress := ⟨.v4 [127, 0, 0, 1], port⟩

/-- The address that a text denotes. The only name that is known is that of the host itself. -/
def resolve? (s : String) : Option SocketAddress :=
  match SocketAddress.parse? s with
  | some address => some address
  | none =>
    match s.splitOn ":" with
    | ["localhost", _] =>
      (SocketAddress.readPort (s.toList.dropWhile (· != ':'))).map loopback
    | _ => none

/-- A host, on which some addresses are taken. -/
structure Host where
  taken : List SocketAddress := []
  /-- The port that is given to whoever asks for any. -/
  freePort : Nat := 49152
  deriving Repr

namespace Host

/-- Whether two services cannot listen at these addresses at once. -/
def conflicts (a b : SocketAddress) : Bool :=
  a.port == b.port && (a.ip == b.ip || a.ip.isUnspecified || b.ip.isUnspecified)

/-- **The address that a service gets to listen at**, and the host afterwards. -/
def bind? (h : Host) (wanted : SocketAddress) : Option (SocketAddress × Host) :=
  if wanted.port = 0 then
    let got := { wanted with port := h.freePort }
    some (got, { taken := got :: h.taken, freePort := h.freePort + 1 })
  else if h.taken.any (conflicts wanted) then none
  else some (wanted, { h with taken := wanted :: h.taken })

end Host

end RunnerDispatch.Net

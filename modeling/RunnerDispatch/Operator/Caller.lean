import RunnerDispatch.Operator.Session
import Std.Async.DNS
import Std.Async.TCP

/-!
# Calling a service

* `Call.make`: sends a request over a connection of its own and reads until that is closed.
-/

namespace RunnerDispatch.Operator

open Std.Async (Async)

namespace Call

/-- Reads until the connection is closed. -/
partial def readAll (client : Std.Async.TCP.Socket.Client) (read : ByteArray) : Async ByteArray := do
  match ← client.recv? 65536 with
  | some more => readAll client (read ++ more)
  | none => return read

/-- An address of a host at a port. -/
def socketAddress (port : UInt16) : Std.Net.IPAddr → Std.Net.SocketAddress
  | .v4 address => .v4 ⟨address, port⟩
  | .v6 address => .v6 ⟨address, port⟩

/-- Connects to the first address that can be reached. -/
def connect (port : UInt16) : List Std.Net.IPAddr → Async Std.Async.TCP.Socket.Client
  | [] => throw (.userError "no address can be reached")
  | address :: rest => do
    try
      let client ← Std.Async.TCP.Socket.Client.mk
      client.connect (socketAddress port address)
      return client
    catch _ => connect port rest

/-- Sends a request and waits for the reply. -/
def exchange (call : Call) (host : Url.Host) (port : Nat) : Async ByteArray := do
  let addresses ← Std.Async.DNS.getAddrInfo host.bare (toString port)
  let client ← connect port.toUInt16 addresses.toList
  client.send ⟨(call.request.wire (host.text ++ ":" ++ toString port)).toArray⟩
  readAll client .empty

/-- **Makes a call.** -/
def make (call : Call) : IO (Except String Http.Reply) := do
  match call.host? with
  | none => return .error ("no connection is possible to " ++ call.url.text)
  | some (host, port) =>
    match ← EIO.toBaseIO (Async.block (call.exchange host port)) with
    | .error e => return .error (toString e)
    | .ok bytes =>
      match Http.Reply.read? bytes.data.toList with
      | some reply => return .ok reply
      | none => return .error "the reply is incomplete"

end Call

end RunnerDispatch.Operator

import RunnerDispatch.Http.Exchange
import RunnerDispatch.Http.Identifier
import RunnerDispatch.Net.SocketAddress
import RunnerDispatch.Server.Console
import RunnerDispatch.Text.Utf8
import Std.Http.Server

/-!
# Listening for requests

* `Listener`: answers the requests that arrive at an address, one after the other.
* `Exposition`: shows what has been counted.
-/

namespace RunnerDispatch.Server

/-- What requests change. -/
structure State where
  connection : Connection
  metrics : Metrics

/-- A service with its state. -/
structure Listener where
  service : Service
  console : Console
  state : IO.Ref State

/-- Shows what has been counted. -/
structure Exposition where
  state : IO.Ref State

/-- A request as it was received. -/
def received (head : Std.Http.Request.Head) (body : ByteArray) : Http.Request :=
  { method := toString head.method
    target := toString head.uri
    headers := head.headers.toList.map fun h => (h.1.value, Bytes.ofString h.2.value)
    body := body.data.toList }

/-- Puts a text into a header, unless it does not fit. -/
def withHeader (builder : Std.Http.Response.Builder) (header : String × Bytes) :
    Std.Http.Response.Builder :=
  (builder.header? header.1 (Text.Utf8.lossy header.2)).getD builder

/-- Starts a response. -/
def begun (status : Nat) (headers : List (String × Bytes)) : Std.Http.Response.Builder :=
  headers.foldl withHeader
    (Std.Http.Response.withStatus
      ((Std.Http.Status.ofCode none status.toUInt16).getD .internalServerError))

namespace Listener

/-- Answers a request. -/
def answer (l : Listener) (request : Http.Request) : IO Http.Response := do
  let handled ← l.state.modifyGet fun s =>
    let h := l.service.handle Connection.backend request s.connection
    (h, { connection := h.state, metrics := s.metrics.record h.counted })
  l.console.report handled.records
  return handled.response

end Listener

instance : Std.Http.Server.Handler Listener where
  ResponseBody := Std.Http.Body.Full
  onRequest l request := do
    let body : ByteArray ← request.body.readAll
    let response ← l.answer (received request.line body)
    let fresh := Http.identifier (← IO.getRandomBytes 16).data.toList
    return (begun response.status (response.headers fresh)).body
      (← Std.Http.Body.Full.ofString response.body)

instance : Std.Http.Server.Handler Exposition where
  ResponseBody := Std.Http.Body.Full
  onRequest e _ := do
    let lines := (← e.state.get).metrics.lines
    return (begun 200 [("content-type", Bytes.ofString "text/plain")]).body
      (← Std.Http.Body.Full.ofString (String.join (lines.map (· ++ "\n"))))

/-- An address as it is handed to the host. -/
def hostAddress (a : Net.SocketAddress) : Std.Net.SocketAddress :=
  match a.ip with
  | .v4 bytes =>
    let byte := fun i => (bytes.getD i 0).toUInt8
    .v4 ⟨.ofParts (byte 0) (byte 1) (byte 2) (byte 3), a.port.toUInt16⟩
  | .v6 groups _ =>
    let word := fun i => (groups.getD i 0).toUInt16
    .v6 ⟨.ofParts (word 0) (word 1) (word 2) (word 3) (word 4) (word 5) (word 6) (word 7),
      a.port.toUInt16⟩

/-- An address that the host hands out. -/
def ofHostAddress : Std.Net.SocketAddress → Net.SocketAddress
  | .v4 a => ⟨.v4 (a.addr.octets.toList.map UInt8.toNat), a.port.toNat⟩
  | .v6 a => ⟨.v6 (a.addr.segments.toList.map UInt16.toNat) 0, a.port.toNat⟩

/-- Begins to answer requests at an address. -/
def listen? {σ : Type} [Std.Http.Server.Handler σ] (address : Net.SocketAddress) (handler : σ)
    (config : Std.Http.Config) : IO (Except String Std.Http.Server) := do
  let opening := Std.Async.Async.block (Std.Http.Server.serve (hostAddress address) handler config)
  match ← EIO.toBaseIO opening with
  | .ok server => return .ok server
  | .error e => return .error (toString e)

/-- Where a server listens. -/
def addressOf (server : Std.Http.Server) (wanted : Net.SocketAddress) : Net.SocketAddress :=
  (server.localAddr.map ofHostAddress).getD wanted

end RunnerDispatch.Server

import RunnerDispatch.Http.Request
import RunnerDispatch.Http.Response

/-!
# Requests and replies on the wire

* `Request.wire`: a request as it is sent, after which the connection is used no more.
* `Reply.read?`: **the reply on a connection that has been closed**.
-/

namespace RunnerDispatch.Http

/-- What ends a line of a head. -/
def lineEnd : Bytes := [Text.Ascii.carriageReturn, Text.Ascii.newline]

/-- A header as it is sent. -/
def headerLine (name : String) (value : Bytes) : Bytes := Bytes.ofString (name ++ ": ") ++ value ++ lineEnd

/-- A request as it is sent to a host. -/
def Request.wire (r : Request) (host : String) : Bytes :=
  Bytes.ofString (r.method ++ " " ++ r.target ++ " HTTP/1.0") ++ lineEnd ++
    headerLine "host" (Bytes.ofString host) ++ r.headers.flatMap (fun h => headerLine h.1 h.2) ++
    lineEnd ++ r.body

/-- What a request brought. -/
structure Reply where
  status : Nat
  body : Bytes
  deriving DecidableEq, Repr

namespace Reply

/-- What stands behind the first empty line. -/
def afterHead? : Bytes → Option Bytes
  | [] => none
  | b :: rest =>
    if (lineEnd ++ lineEnd).isPrefixOf (b :: rest) then some (rest.drop 3) else afterHead? rest

/-- The status in the first line. -/
def status? (bytes : Bytes) : Option Nat := do
  let line ← Bytes.toString? (bytes.takeWhile (· != Text.Ascii.carriageReturn))
  let code ← (line.splitOn " ")[1]?
  Text.natural? code

/-- **The reply on a connection that has been closed.** -/
def read? (bytes : Bytes) : Option Reply := do
  let status ← status? bytes
  let body ← afterHead? bytes
  return { status, body }

end Reply

/-- What is sent of a response, as far as it matters to whoever asked. -/
def Response.reply (r : Response) : Reply := ⟨r.status, Bytes.ofString r.body⟩

end RunnerDispatch.Http

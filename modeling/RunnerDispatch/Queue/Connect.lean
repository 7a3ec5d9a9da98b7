import RunnerDispatch.Dispatch
import RunnerDispatch.Url.Parser

/-!
# Choosing a queue

The address of a queue names its kind by its scheme: the queue in memory, or a document server. A server
is contacted only when a job is added; no server is reachable here.

* `Connection`: a chosen queue.
* `connect`: **the queue of an address**, or why there is none.
-/

namespace RunnerDispatch

/-- Why an address leads to no queue. -/
inductive ConnectFault
  | invalidUrl (url : String) (reason : Url.Fault)
  | unsupported (scheme : String)
  /-- The address is none of a document server. -/
  | malformedServer
  deriving DecidableEq, Repr

def ConnectFault.message : ConnectFault → String
  | invalidUrl url reason => "invalid queue url `" ++ url ++ "`: " ++ reason.message
  | unsupported scheme => "unsupported queue backend `" ++ scheme ++ "`"
  | malformedServer => "mongodb: invalid connection string"

/-- The message of what lies behind a fault. -/
def ConnectFault.cause? : ConnectFault → Option String
  | invalidUrl _ reason => some reason.message
  | unsupported _ => none
  | malformedServer => none

/-- The database of an address that names none. -/
def standardDatabase : String := "webhook_router"

/-- A chosen queue. -/
inductive Connection
  | memory (q : Queue)
  | server (database : String)
  deriving DecidableEq

namespace Connection

/-- Whether jobs can be added now. -/
def canConnect : Connection → Bool
  | memory q => q.canConnect
  | server _ => false

/-- Adds a job. -/
def add (c : Connection) (job : Job) (flavor : Flavor) : Taking Connection QueueFault :=
  match c with
  | memory q =>
    let added := q.add job flavor
    (added.result, .memory added.queue, added.records)
  | server _ => (.error .unreachable, c, [])

/-- A connection as a backend. -/
def backend : Backend Connection QueueFault where
  add job flavor c := c.add job flavor
  canConnect := Connection.canConnect
  explain := QueueFault.message

end Connection

namespace ServerAddress

/-- Options whose value is a number. -/
def numericOptions : List String :=
  ["connecttimeoutms", "heartbeatfrequencyms", "localthresholdms", "maxidletimems",
    "maxstalenessseconds", "maxpoolsize", "minpoolsize", "maxconnecting",
    "serverselectiontimeoutms", "sockettimeoutms", "waitqueuetimeoutms", "wtimeoutms",
    "zlibcompressionlevel", "srvmaxhosts"]

/-- Options whose value is `true` or `false`. -/
def booleanOptions : List String :=
  ["directconnection", "journal", "loadbalanced", "retryreads", "retrywrites", "ssl", "tls",
    "tlsallowinvalidcertificates", "tlsallowinvalidhostnames", "tlsinsecure"]

/-- Whether an option with its value is understood. -/
def isOption (option : String) : Bool :=
  match option.splitOn "=" with
  | [name, value] =>
    let name := name.toLower
    if numericOptions.contains name then !value.isEmpty && value.toList.all Char.isDigit
    else if booleanOptions.contains name then value == "true" || value == "false"
    else true
  | _ => false

/-- The text up to a character, and what stands behind it if the character occurs. -/
def splitAt (separator : Char) (cs : List Char) : List Char × Option (List Char) :=
  let front := cs.takeWhile (· != separator)
  match cs.drop front.length with
  | [] => (front, none)
  | _ :: rest => (front, some rest)

/-- Characters that no name of a database holds. -/
def isForbidden (c : Char) : Bool := "/\\ \"$".contains c

/-- The database that an address names, the standard one if it names none. -/
def database? (address : String) : Option String := do
  let scheme := "mongodb://".toList
  let cs := address.toList
  if !scheme.isPrefixOf cs then none
  let (hosts, path) := splitAt '/' (cs.drop scheme.length)
  if hosts.isEmpty || (path.isNone && hosts.contains '?') then none
  let (name, options) := splitAt '?' (path.getD [])
  let options := options.getD []
  if !options.isEmpty && !(((String.ofList options).splitOn "&").all isOption) then none
  let name ← Bytes.toString? (Url.Percent.decode (Bytes.ofString (String.ofList name)))
  if name.toList.any isForbidden then none
  return if name.isEmpty then standardDatabase else name

end ServerAddress

/-- What choosing a queue came to. -/
structure Connected where
  result : Except ConnectFault Connection
  records : List Log.Record

/-- **The queue of an address.** -/
def connect (address : String) (capacity : Nat) : Connected :=
  match Url.parse address with
  | .error e => ⟨.error (.invalidUrl address e), []⟩
  | .ok url =>
    if url.scheme = "memory" then
      ⟨.ok (.memory { capacity }),
        [⟨.info, .queue, "Using in-memory job queue", [("capacity", .number capacity)]⟩]⟩
    else if url.scheme = "mongodb" ∨ url.scheme = "mongodb+srv" then
      match ServerAddress.database? address with
      | none => ⟨.error .malformedServer, []⟩
      | some database =>
        let host := ((url.authority.bind (·.host)).map Url.Host.text).getD ""
        ⟨.ok (.server database),
          [⟨.info, .queue, "Using MongoDB job queue",
            [("host", .literal host), ("database", .literal database)]⟩]⟩
    else ⟨.error (.unsupported url.scheme), []⟩

end RunnerDispatch

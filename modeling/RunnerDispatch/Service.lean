import RunnerDispatch.Queue.Connect
import RunnerDispatch.Settings.Load

/-!
# The service

The settings with the table compiled from them. The queue is not part of it: it is the state that
requests change.

* `Service.assemble`: the service of given settings.
* `Service.build`: **the queue is chosen first, then the table is compiled**.
* `StartFault`: all that keeps the service from starting, each with what lies behind it.
-/

namespace RunnerDispatch

/-- What keeps the service from starting. -/
inductive StartFault
  | settings (e : LoadFault)
  | routing (e : Routing.Fault)
  | queue (e : ConnectFault)
  | logging (e : Log.Filter.Malformed)
  | metrics (reason : String)
  | listening (reason : String)
  deriving DecidableEq

namespace StartFault

/-- What went wrong and the messages of what lies behind it, the outermost first. -/
def layers : StartFault → String × List String
  | settings e => ("failed to load configuration: ", e.message :: e.cause?.toList)
  | routing e => ("invalid routing configuration: ", [e.message])
  | queue e => ("failed to connect job queue: ", e.message :: e.cause?.toList)
  | logging e => ("failed to initialize logging: ", [e.message])
  | metrics reason => ("failed to start metrics exporter: ", [reason])
  | listening reason => ("I/O error: ", [reason])

/-- The message of a fault, which ends in that of its cause. -/
def message (e : StartFault) : String := e.layers.1 ++ (e.layers.2.head?.getD "")

/-- **The messages of a fault and of each cause behind it.** -/
def chain (e : StartFault) : List String := e.message :: e.layers.2

end StartFault

/-- The settings with the table compiled from them. -/
structure Service where
  settings : Settings
  table : Routing.Table

namespace Service

/-- What assembling came to, and what was reported. -/
structure Assembled where
  result : Except Routing.Fault Service
  records : List Log.Record

/-- The size of the table. -/
def size (s : Service) : TableSize := ⟨s.table.size, s.table.flavors.length⟩

/-- The report on a finished table. -/
def announcement (s : Service) : Log.Record :=
  ⟨.info, .startup, "Routing table built",
    [("flavors", .number s.size.flavors), ("entries", .number s.size.entries),
      ("default_flavor", .text s.table.default.name)]⟩

/-- The service of given settings. -/
def assemble (settings : Settings) : Assembled :=
  let compilation := settings.rules.compile
  match compilation.result with
  | .error fault => ⟨.error fault, compilation.records⟩
  | .ok table =>
    let s : Service := ⟨settings, table⟩
    ⟨.ok s, compilation.records ++ [s.announcement]⟩

/-- What building came to, and what was reported. -/
structure Built where
  result : Except StartFault (Service × Connection)
  records : List Log.Record

/-- **Chooses the queue, then compiles the table.** -/
def build (settings : Settings) : Built :=
  let connected := connect settings.queue.url settings.queue.capacity
  match connected.result with
  | .error e => ⟨.error (.queue e), connected.records⟩
  | .ok connection =>
    let assembled := assemble settings
    let records := connected.records ++ assembled.records
    match assembled.result with
    | .error e => ⟨.error (.routing e), records⟩
    | .ok s => ⟨.ok (s, connection), records⟩

end Service

end RunnerDispatch

import RunnerDispatch.Http.Exchange
import RunnerDispatch.Net.Host
import RunnerDispatch.Routing.Overview
import RunnerDispatch.Server.Arguments
import RunnerDispatch.Shutdown.Serving

/-!
# The server's run

A run loads the settings, starts what they ask for, and serves until it is told to stop. Each step may end
the run; **what was reported up to then stays reported**.

* `Server.prepare`: settings, log filter, metrics endpoint, queue and table.
* `Server.run`: a whole run in which no request arrives.
-/

namespace RunnerDispatch.Server

/-- A step of a run: it may fail, and reports. -/
abbrev Step (α : Type) := ExceptT StartFault (StateM (List Log.Record)) α

/-- Reports. -/
def report (records : List Log.Record) : Step Unit := modify (· ++ records)

/-- What tells the server to stop. -/
inductive Signal
  | terminate
  | interrupt
  deriving DecidableEq, Repr

/-- The report on a signal. -/
def Signal.record (s : Signal) : Log.Record :=
  ⟨.info, .signals, match s with
    | terminate => "Received SIGTERM"
    | interrupt => "Received SIGINT", []⟩

/-- The version of the server. -/
def version : String := "0.1.0"

/-- The first report of a run. -/
def greeting (configFile : String) : Log.Record :=
  ⟨.info, .process, "webhook-router starting",
    [("version", .literal version), ("config", .text configFile)]⟩

/-- The report on the metrics endpoint. -/
def measuring (address : Net.SocketAddress) : Log.Record :=
  ⟨.info, .metrics, "Metrics endpoint listening", [("address", .text address.text)]⟩

/-- The report on the address of the server. -/
def listening (settings : Settings) (address : Net.SocketAddress) : Log.Record :=
  ⟨.info, .process, "Listening for webhooks",
    [("address", .text address.text), ("webhook_path", .text settings.webhook.path),
     ("request_timeout_secs", .number settings.requestSeconds)]⟩

/-- The report on a server that begins to answer. -/
def starting (address : Net.SocketAddress) : Log.Record :=
  ⟨.info, .intake, "HTTP server starting", [("address", .text address.text)]⟩

/-- The reports of a server that is told to stop, after the signal and when it is done. -/
def draining : List Log.Record :=
  [⟨.info, .intake, "HTTP server draining", []⟩, ⟨.info, .intake, "HTTP server stopped", []⟩]

/-- The last report of a run. -/
def farewell : Log.Record := ⟨.info, .process, "Shutdown complete", []⟩

/-- Where the metrics endpoint is to listen, if there is to be one. -/
def metricsAddress? (settings : Settings) : Option Net.SocketAddress :=
  if settings.reports.metricsEnabled then Net.SocketAddress.parse? settings.reports.metricsAddress
  else none

/-- Starts the metrics endpoint, if there is to be one. -/
def startMetrics (settings : Settings) (host : Net.Host) : Step Net.Host := do
  match metricsAddress? settings with
  | none => return host
  | some address =>
    match host.bind? address with
    | none => throw (.metrics "address in use")
    | some (_, host) =>
      report [measuring address]
      return host

/-- A service that is ready to listen. -/
structure Prepared where
  service : Service
  connection : Connection
  host : Net.Host

/-- Starts what the settings ask for. -/
def prepare (arguments : Arguments) (settings : Settings) (host : Net.Host) : Step Prepared := do
  report [greeting arguments.configFile]
  let host ← if arguments.check then pure host else startMetrics settings host
  let built := Service.build settings
  report built.records
  match built.result with
  | .error e => throw e
  | .ok (service, connection) => return { service, connection, host }

/-- Binds the address in the settings. -/
def listen (p : Prepared) : Step Net.SocketAddress := do
  let settings := p.service.settings
  match (Net.resolve? settings.bindAddress).bind p.host.bind? with
  | none => throw (.listening "address in use")
  | some (address, _) =>
    report [listening settings address]
    return address

/-- Listens, and serves until the signal comes. -/
def serve (p : Prepared) (signal : Signal) : Step Unit := do
  let address ← listen p
  let (_, shutdown) := ({} : Shutdown).subscribe
  report (p.service.opening ++ [starting address, signal.record])
  let served := serveUntil .signal (Ending.finished : Ending StartFault) shutdown
  report (served.records ++ draining)
  served.result
  report [farewell]

/-- What a run came to. -/
structure Run where
  result : Except StartFault Unit
  /-- What is printed besides the reports. -/
  output : String := ""
  format : LogFormat := .pretty
  /-- The reports that the filter admits. -/
  records : List Log.Record := []

/-- The run with settings and a filter. It prints the table, or serves. -/
def runWith (arguments : Arguments) (settings : Settings) (filter : Log.Filter) (host : Net.Host)
    (signal : Signal) : Run :=
  let steps : Step String := do
    let p ← prepare arguments settings host
    if arguments.check then return p.service.table.overview
    serve p signal
    return ""
  let (result, records) := steps.run.run []
  { result := result.map fun _ => ()
    output := result.toOption.getD ""
    format := settings.reports.logFormat
    records := records.filter filter.admits }

/-- What a run begins with: the settings, and what is to be reported. -/
def configure [Log.PatternSyntax] (file : Option Bytes) (env : Environment) :
    Except StartFault (Settings × Log.Filter) := do
  let settings ← (Settings.load file env).mapError .settings
  let filter ← (Log.Filter.select env.logFilter settings.reports.logLevel).mapError .logging
  return (settings, filter)

/-- **A whole run**, with the file in its place and a signal in the end. -/
def run [Log.PatternSyntax] (arguments : Arguments) (file : Option Bytes) (env : Environment)
    (host : Net.Host) (signal : Signal) : Run :=
  match configure file env with
  | .error e => { result := .error e }
  | .ok (settings, filter) => runWith arguments settings filter host signal

end RunnerDispatch.Server

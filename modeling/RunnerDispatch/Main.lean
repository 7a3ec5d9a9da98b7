import RunnerDispatch.Operator.Caller
import RunnerDispatch.Server
import RunnerDispatch.Server.Listener
import Std.Async.Signal

/-!
# The program

`runner-dispatch [--config FILE] [--check]` runs the server, and `runner-dispatch operator …` makes a call
to one that runs.
-/

namespace RunnerDispatch.Program

open Std.Async (Async Selectable)

/-- The environment that the program is started in. -/
def environment : IO Environment := do
  return { secret := ← IO.getEnv "WEBHOOK_SECRET", queueUrl := ← IO.getEnv "QUEUE_URL",
           logFilter := ← IO.getEnv "RUST_LOG" }

/-- The bytes of a file, if it can be read. -/
def fileBytes (path : String) : IO (Option Bytes) := do
  match ← EIO.toBaseIO (IO.FS.readBinFile path) with
  | .ok bytes => return some bytes.data.toList
  | .error _ => return none

/-- A step that the start may fail at. -/
abbrev Start := ExceptT StartFault IO

/-- How the service is offered: the settings say how long a sender may pause. -/
def offer (settings : Settings) : Std.Http.Config :=
  { lingeringTimeout := .ofNat (settings.requestSeconds * 1000), serverName := none }

/-- Shows what is counted, if that is asked for. -/
def openMetrics (settings : Settings) (console : Server.Console) (state : IO.Ref Server.State) :
    Start Unit := do
  match Server.metricsAddress? settings with
  | none => return
  | some address =>
    match ← Server.listen? address (Server.Exposition.mk state) (offer settings) with
    | .error reason => throw (.metrics reason)
    | .ok _ => console.report [Server.measuring address]

/-- Builds the service, with its state. -/
def build (settings : Settings) (console : Server.Console) : Start (Service × Server.State) := do
  let built := Service.build settings
  console.report built.records
  let (service, connection) ← liftExcept built.result
  return (service, { connection, metrics := ({} : Metrics).measure service.size })
where
  liftExcept {α : Type} (r : Except StartFault α) : Start α := ExceptT.mk (pure r)

/-- Waits for a signal to stop. -/
def signal : Async Server.Signal := do
  let terminate ← Std.Async.Signal.Waiter.mk .sigterm false
  let interrupt ← Std.Async.Signal.Waiter.mk .sigint false
  Selectable.one #[
    .case terminate.selector fun _ => return .terminate,
    .case interrupt.selector fun _ => return .interrupt]

/-- Answers requests until a signal comes, and then finishes those at hand. -/
def serve (listener : Server.Listener) : Start Unit := do
  let settings := listener.service.settings
  let console := listener.console
  let some wanted := Net.resolve? settings.bindAddress
    | throw (.listening "no such address")
  match ← Server.listen? wanted listener (offer settings) with
  | .error reason => throw (.listening reason)
  | .ok server =>
    let address := Server.addressOf server wanted
    let (_, shutdown) := ({} : Shutdown).subscribe
    console.report (Server.listening settings address ::
      listener.service.opening ++ [Server.starting address])
    let stop ← signal.block
    let served := serveUntil .signal (Ending.finished : Ending StartFault) shutdown
    console.report (stop.record :: served.records ++ Server.draining.take 1)
    server.shutdownAndWait.block
    console.report (Server.draining.drop 1 ++ [Server.farewell])

/-- Runs the server, or checks its settings and prints the table. -/
def runServer (arguments : Server.Arguments) : Start Unit := do
  match Server.configure (← fileBytes arguments.configFile) (← environment) with
  | .error fault => throw fault
  | .ok (settings, filter) =>
    let console : Server.Console := ⟨filter, settings.reports.logFormat⟩
    console.report [Server.greeting arguments.configFile]
    if arguments.check then
      let (service, _) ← build settings console
      IO.print service.table.overview
    else
      let state ← IO.mkRef (Server.State.mk (.memory { capacity := 0 }) {})
      openMetrics settings console state
      let (service, start) ← build settings console
      state.set start
      serve { service, console, state }

/-- The server's command line. -/
def server (words : List String) : IO UInt32 := do
  match Server.Arguments.read words with
  | .error fault =>
    IO.eprintln fault.message
    return fault.exit.toUInt32
  | .ok arguments =>
    match ← (runServer arguments).run with
    | .ok () => return 0
    | .error fault =>
      IO.eprint (Operator.errorLine fault.message)
      return 1

/-- The operator's command line. -/
def operator (words : List String) : IO UInt32 := do
  let conclusion ← Operator.attend Operator.Call.make words (← environment).secret
  IO.print conclusion.output
  IO.eprint conclusion.complaint
  return conclusion.exit.toUInt32

end RunnerDispatch.Program

/-- Runs the program. -/
def main (words : List String) : IO UInt32 :=
  match words with
  | "operator" :: rest => RunnerDispatch.Program.operator rest
  | _ => RunnerDispatch.Program.server words

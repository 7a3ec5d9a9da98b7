/-!
# Log records

What the service reports about its work. A record is a value: an operation returns the records it
gives rise to, in order, and the outer layer writes them.

* `Part`: the part of the service a record comes from, with the path that filters match against.
* `Record`: level, part, message and the named values that go with it.
-/

namespace RunnerDispatch.Log

/-- How severe a record is, the most severe level first. -/
inductive Level
  | error
  | warn
  | info
  | debug
  | trace
  deriving DecidableEq, Repr

/-- The level in capitals. -/
def Level.name : Level → String
  | .error => "ERROR"
  | .warn => "WARN"
  | .info => "INFO"
  | .debug => "DEBUG"
  | .trace => "TRACE"

/-- Levels in ascending verbosity. -/
def Level.rank : Level → Nat
  | .error => 1
  | .warn => 2
  | .info => 3
  | .debug => 4
  | .trace => 5

/-- The parts of the service that report. -/
inductive Part
  | process
  | intake
  | replies
  | shutdown
  | signals
  | startup
  | metrics
  | queue
  | memoryQueue
  | routingTable
  | dispatch
  deriving DecidableEq, Repr

/-- The path of a part, outermost name first. -/
def Part.path : Part → String
  | .process => "webhook_router"
  | .intake => "webhook_router::http::server"
  | .replies => "webhook_router::http::response"
  | .shutdown => "webhook_router::lifecycle::shutdown"
  | .signals => "webhook_router::lifecycle::signals"
  | .startup => "webhook_router::lifecycle::startup"
  | .metrics => "webhook_router::observability::metrics"
  | .queue => "webhook_router::queue"
  | .memoryQueue => "webhook_router::queue::memory"
  | .routingTable => "webhook_router::routing::builder"
  | .dispatch => "webhook_router::routing::router"

/-- A value that goes with a record. -/
inductive FieldValue
  /-- A number. -/
  | number (n : Nat)
  /-- A text that is shown as it is. -/
  | text (s : String)
  /-- A text that is shown between quotes on a line for people. -/
  | literal (s : String)
  deriving DecidableEq, Repr

/-- One report of the service. -/
structure Record where
  level : Level
  part : Part
  message : String
  fields : List (String × FieldValue)
  deriving DecidableEq, Repr

end RunnerDispatch.Log

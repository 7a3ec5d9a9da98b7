import RunnerDispatch.Routing.Compile

/-!
# Settings

What an operator can set. Every setting has a default, so that a file may leave out what it does not
change; only a flavor cannot do without a name.
-/

namespace RunnerDispatch

/-- How log records are written. -/
inductive LogFormat
  /-- A line for people. -/
  | pretty
  /-- A JSON record. -/
  | json
  deriving DecidableEq, Repr

/-- Where deliveries arrive and what they must be like. -/
structure WebhookSettings where
  path : String := "/webhook"
  /-- The secret that deliveries are signed with. Without one no signature is asked for. -/
  secret : Option String := none
  /-- How many bytes a body may have. -/
  bodyLimit : Nat := 1048576
  deriving DecidableEq, Repr

/-- Where jobs wait. -/
structure QueueSettings where
  url : String := "memory://"
  /-- How many jobs of a flavor may wait. -/
  capacity : Nat := 10000
  deriving DecidableEq, Repr

/-- What the service reports about itself. -/
structure ReportSettings where
  logLevel : String := "info"
  logFormat : LogFormat := .pretty
  metricsEnabled : Bool := false
  metricsAddress : String := "0.0.0.0:9090"
  deriving DecidableEq, Repr

/-- All settings of the service. -/
structure Settings where
  bindAddress : String := "0.0.0.0:8080"
  webhook : WebhookSettings := {}
  rules : Routing.Rules := {}
  queue : QueueSettings := {}
  /-- How many seconds a request may take. -/
  requestSeconds : Nat := 30
  reports : ReportSettings := {}
  deriving DecidableEq, Repr

/-- Where health is asked for; no webhook may have this path. -/
def healthPath : String := "/health"

end RunnerDispatch

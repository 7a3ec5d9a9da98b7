import RunnerDispatch.Log.Filter
import RunnerDispatch.Net.SocketAddress
import RunnerDispatch.Settings

/-!
# Problems in settings

Settings are checked one by one, so that an operator learns of everything that is wrong at once.

* `Problem`: a setting with a value that cannot be used.
* `Settings.problems`: **all problems in a fixed order**, each setting checked on its own.
-/

namespace RunnerDispatch

/-- A setting that must be greater than zero. -/
inductive Positive
  | bodyLimit
  | requestSeconds
  | queueCapacity
  deriving DecidableEq, Repr

def Positive.name : Positive → String
  | bodyLimit => "webhook.max_body_size"
  | requestSeconds => "timeouts.request_secs"
  | queueCapacity => "queue.max_pending_per_flavor"

/-- A setting with a value that cannot be used. -/
inductive Problem
  | bindAddress (value : String)
  | metricsAddress (value : String)
  | webhookPath (value : String)
  | reservedPath (value : String)
  | emptySecret
  | zero (setting : Positive)
  | logLevel (value : String)
  deriving DecidableEq, Repr

def Problem.message : Problem → String
  | bindAddress value => "listener.bind_address `" ++ value ++ "` is not a socket address"
  | metricsAddress value =>
    "observability.metrics_address `" ++ value ++ "` is not a socket address"
  | webhookPath value =>
    "webhook.path `" ++ value ++ "` must start with '/' and contain only URL-safe characters"
  | reservedPath value => "webhook.path `" ++ value ++ "` is reserved"
  | emptySecret => "webhook.secret must not be empty when set"
  | zero setting => setting.name ++ " must be greater than zero"
  | logLevel value => "observability.log_level `" ++ value ++ "` is not a valid filter"

/-- Whether a character stands for itself in a path. -/
def isPathChar (c : Char) : Bool := c.isAlphanum || ['/', '-', '_', '.', '~'].contains c

/-- Whether a path is absolute, names something and needs no escapes. -/
def isWebhookPath (path : String) : Bool :=
  match path.toList with
  | '/' :: c :: cs => (c :: cs).all isPathChar
  | _ => false

namespace Settings

/-- The problem with the path. -/
def pathProblem (path : String) : Option Problem :=
  if !isWebhookPath path then some (.webhookPath path)
  else if path = healthPath then some (.reservedPath path)
  else none

/-- A problem with a setting that is zero. -/
def zeroProblem (setting : Positive) (value : Nat) : Option Problem :=
  if value = 0 then some (.zero setting) else none

/-- Each check in turn. -/
def checks [Log.PatternSyntax] (s : Settings) : List (Option Problem) :=
  [if (Net.SocketAddress.parse? s.bindAddress).isNone then some (.bindAddress s.bindAddress)
    else none,
   pathProblem s.webhook.path,
   if s.webhook.secret = some "" then some .emptySecret else none,
   zeroProblem .bodyLimit s.webhook.bodyLimit,
   zeroProblem .requestSeconds s.requestSeconds,
   zeroProblem .queueCapacity s.queue.capacity,
   if s.reports.metricsEnabled ∧ (Net.SocketAddress.parse? s.reports.metricsAddress).isNone then
      some (.metricsAddress s.reports.metricsAddress)
    else none,
   if (Log.Filter.parse? s.reports.logLevel).isNone then some (.logLevel s.reports.logLevel)
    else none]

/-- **All problems, in the order of the checks.** -/
def problems [Log.PatternSyntax] (s : Settings) : List Problem := s.checks.filterMap id

end Settings

end RunnerDispatch

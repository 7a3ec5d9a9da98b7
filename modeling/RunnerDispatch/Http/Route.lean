import RunnerDispatch.Http.Request
import RunnerDispatch.Settings

/-!
# Routes

* `Route.of`: **where a request goes, by its exact path and its method**.
-/

namespace RunnerDispatch.Http

/-- Where a request goes. -/
inductive Route
  | webhook
  | health
  /-- The path is known, and takes other methods. -/
  | wrongMethod (allowed : String)
  | unknown
  deriving DecidableEq, Repr

/-- The methods that a path takes, when webhooks are delivered to some path. -/
def methodsAt (webhookPath path : String) : List String :=
  (if path = webhookPath then ["POST"] else []) ++
    (if path = healthPath then ["GET", "HEAD"] else [])

/-- Where a request goes, when webhooks are delivered to some path. -/
def Route.of (webhookPath : String) (r : Request) : Route :=
  if r.path = webhookPath ∧ r.method = "POST" then .webhook
  else if r.path = healthPath ∧ (r.method = "GET" ∨ r.method = "HEAD") then .health
  else
    match methodsAt webhookPath r.path with
    | [] => .unknown
    | methods => .wrongMethod (",".intercalate methods)

/-- The methods that would have been right. -/
def Route.allow? : Route → Option String
  | wrongMethod allowed => some allowed
  | _ => none

end RunnerDispatch.Http

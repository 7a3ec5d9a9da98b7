import RunnerDispatch.Http.Refusal
import RunnerDispatch.Http.Route
import RunnerDispatch.Service

/-!
# Answering requests

A request whose declared length is above the limit is turned away before anything else is looked at. A
delivery is then authenticated, if there is a secret, read, and dispatched.

* `authenticate`: **the signature covers the whole body**, which may not be longer than allowed.
* `deliver`: reads a delivery and dispatches its job.
* `Service.handle`: **the answer to a request** with the state afterwards, the reports and what is counted.
-/

namespace RunnerDispatch

namespace Http

/-- What handling a request came to. -/
structure Handled (σ : Type) where
  response : Response
  state : σ
  records : List Log.Record := []
  /-- The series that are incremented. -/
  counted : List Series := []

/-- Whether a request declares a body longer than the limit. -/
def declaresTooMuch (limit : Nat) (r : Request) : Bool := r.declaredLength?.any (· > limit)

/-- How long the body may be: a declared length binds the sender. -/
def allowance (limit : Nat) (r : Request) : Nat := min limit (r.declaredLength?.getD limit)

/-- Whether the body is longer than it may be. -/
def bodyExceeds (limit : Nat) (r : Request) : Bool := decide (r.body.length > allowance limit r)

/-- What is counted for a delivery that was answered. -/
def answered (status : Nat) : List Series := [.answered status, .timed]

section

variable {σ ε : Type}

/-- **Checks that the body is allowed and carries the signature of the secret.** -/
def authenticate (secret : String) (limit : Nat) (r : Request) : Except (Refusal ε) Unit :=
  match r.header? Webhook.signatureHeader with
  | none => .error (.signature .missing)
  | some value =>
    match Request.textOf? value with
    | none => .error (.signature .malformed)
    | some header =>
      if bodyExceeds limit r then .error (.bodyTooLong limit)
      else (Webhook.Signature.verify r.body secret header).mapError .signature

/-- The job of a delivery. -/
def jobOf (r : Request) : Except (Refusal ε) Job := do
  (Webhook.checkEvent (r.readable? Webhook.eventHeader)).mapError .delivery
  (Webhook.parseJob r.body).mapError .delivery

/-- The answer to a refused delivery, which is counted. -/
def refuse (explain : ε → String) (e : Refusal ε) (state : σ) (records : List Log.Record)
    (counted : List Series) : Handled σ :=
  ⟨e.response explain, state, records ++ [e.record explain], counted ++ answered e.status⟩

/-- **Reads a delivery and dispatches its job.** -/
def deliver (table : Routing.Table) (backend : Backend σ ε) (r : Request) (state : σ) : Handled σ :=
  match jobOf r with
  | .error e => refuse backend.explain e state [] []
  | .ok job =>
    let d := forward table backend job state
    match d.result with
    | .error e => refuse backend.explain (.dispatch e) d.state d.records d.counted
    | .ok outcome =>
      ⟨.json 200 outcome.body, d.state, d.records, d.counted ++ answered 200⟩

/-- Handles what was delivered to the webhook's path. **Without a secret a body that is too long is
answered before the delivery is looked at**, and not counted. -/
def receive (service : Service) (backend : Backend σ ε) (r : Request) (state : σ) : Handled σ :=
  let limit := service.settings.webhook.bodyLimit
  match service.settings.webhook.secret with
  | some secret =>
    match authenticate secret limit r with
    | .error e => refuse backend.explain e state [] []
    | .ok () => deliver service.table backend r state
  | none =>
    if bodyExceeds limit r then
      { response := .plain 413 "Failed to buffer the request body: length limit exceeded", state }
    else deliver service.table backend r state

/-- Says whether jobs can be added now. -/
def health (backend : Backend σ ε) (state : σ) : Handled σ :=
  if backend.canConnect state then
    { response := .json 200 (Json.Value.record [("status", .text "ok")]).compact, state }
  else
    { response := .json 503 (Json.Value.record [("status", .text "unavailable")]).compact, state
      records := [⟨.warn, .intake, "Health check failed: queue unreachable", []⟩] }

/-- Handles a request by its route. -/
def follow (service : Service) (backend : Backend σ ε) (r : Request) (state : σ) : Handled σ :=
  match Route.of service.settings.webhook.path r with
  | .webhook => receive service backend r state
  | .health => health backend state
  | .wrongMethod _ => { response := .bare 405, state }
  | .unknown => { response := .bare 404, state }

/-- Handles a request by its route, unless it declares too long a body. -/
def respond (service : Service) (backend : Backend σ ε) (r : Request) (state : σ) : Handled σ :=
  if declaresTooMuch service.settings.webhook.bodyLimit r then
    { response := .plain 413 "length limit exceeded", state }
  else follow service backend r state

/-- Completes a response with what it owes to the request. -/
def complete (service : Service) (r : Request) (response : Response) : Response :=
  { response.forMethod r.method with
    allow := (Route.of service.settings.webhook.path r).allow?
    requestId := r.header? "x-request-id" }

end

end Http

namespace Service

/-- **The answer to a request**, the state afterwards, the reports and what is counted. -/
def handle {σ ε : Type} (s : Service) (backend : Backend σ ε) (r : Http.Request) (state : σ) :
    Http.Handled σ :=
  let h := Http.respond s backend r state
  { h with response := Http.complete s r h.response }

/-- What is reported before the first request. -/
def opening (s : Service) : List Log.Record :=
  if s.settings.webhook.secret.isNone then
    [⟨.warn, .intake, "No webhook secret configured, signatures are not verified", []⟩]
  else []

end Service

end RunnerDispatch

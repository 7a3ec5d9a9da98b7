import RunnerDispatch.Dispatch
import RunnerDispatch.Http.Response
import RunnerDispatch.Webhook.Payload
import RunnerDispatch.Webhook.Signature

/-!
# Refusals

* `Refusal`: why a delivery is not accepted.
* `Refusal.status`: **400 for a bad delivery, 403 for a bad signature, 413 for a body that is too long,
  503 for a queue that takes no job**.
* `Refusal.record`: the report; only what the service is to blame for is an error.
-/

namespace RunnerDispatch.Http

/-- Why a delivery is not accepted. -/
inductive Refusal (ε : Type)
  | delivery (e : Webhook.DeliveryFault)
  | signature (e : Webhook.SignatureFault)
  | dispatch (e : DispatchFault ε)
  | bodyTooLong (limit : Nat)

namespace Refusal

variable {ε : Type}

/-- The status code of the answer. -/
def status : Refusal ε → Nat
  | delivery _ => 400
  | signature _ => 403
  | dispatch (.noMatch _) => 400
  | dispatch (.queue _) => 503
  | bodyTooLong _ => 413

/-- The wording, given that of the queue's faults. -/
def message (explain : ε → String) : Refusal ε → String
  | delivery e => e.message
  | signature e => e.message
  | dispatch e => e.message explain
  | bodyTooLong limit => "request body exceeds " ++ toString limit ++ " bytes"

/-- The report on a refusal. -/
def record (explain : ε → String) (e : Refusal ε) : Log.Record :=
  let error := ("error", Log.FieldValue.text (e.message explain))
  if e.status ≥ 500 then ⟨.error, .replies, "Webhook failed", [error]⟩
  else ⟨.warn, .replies, "Webhook rejected", [("status", .number e.status), error]⟩

/-- The answer to a refused delivery. -/
def response (explain : ε → String) (e : Refusal ε) : Response :=
  .plain e.status (e.message explain)

end Refusal

end RunnerDispatch.Http

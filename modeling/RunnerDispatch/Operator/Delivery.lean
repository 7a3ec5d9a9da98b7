import RunnerDispatch.Http.Request
import RunnerDispatch.Json.Printer
import RunnerDispatch.Operator.Arguments
import RunnerDispatch.Settings
import RunnerDispatch.Url.Parser
import RunnerDispatch.Webhook.Payload
import RunnerDispatch.Webhook.Signature

/-!
# Requests made by an operator

* `Sending.payload`: **the body of a delivery**.
* `Arguments.call`: the request that a command makes, and the URL it is made to.
-/

namespace RunnerDispatch.Operator

/-- Why no request is made. -/
inductive RequestFault
  | badUrl (e : Url.Fault)
  | unsigned (e : Webhook.SignatureFault)
  deriving DecidableEq, Repr

def RequestFault.message : RequestFault → String
  | badUrl e => e.message
  | unsigned e => e.message

namespace Sending

/-- **The body of a delivery.** -/
def payload (s : Sending) : Json.Value :=
  .record
    [("action", .text s.action),
     ("workflow_job",
      .record [("labels", .list (s.labels.map Json.Value.text)), ("run_url", .text s.runUrl)])]

/-- The bytes of the body. -/
def body (s : Sending) : Bytes := Bytes.ofString s.payload.compact

/-- The header that carries the signature, if there is a secret. -/
def signature (s : Sending) : Except RequestFault (List (String × Bytes)) :=
  match s.secret with
  | none => .ok []
  | some secret =>
    match Webhook.Signature.sign s.body secret with
    | .ok header => .ok [(Webhook.signatureHeader, Bytes.ofString header)]
    | .error e => .error (.unsigned e)

end Sending

/-- The part of a URL that a request asks for. -/
def targetOf (url : Url) : String :=
  url.path.text ++ (match url.query with
    | some query => "?" ++ query
    | none => "")

/-- What was sent has a length. -/
def lengthHeader (body : Bytes) : String × Bytes :=
  ("content-length", Bytes.ofString (toString body.length))

/-- The URL that a command goes to. -/
def Arguments.goal (a : Arguments) : Except RequestFault Url :=
  let text := match a.command with
    | .health => a.url ++ healthPath
    | .send s => a.url ++ s.path
  (Url.parse text).mapError .badUrl

/-- A request, and the URL it is made to. -/
structure Call where
  url : Url
  request : Http.Request
  deriving DecidableEq, Repr

/-- The host and port that a call goes to, if it needs no encryption. -/
def Call.host? (c : Call) : Option (Url.Host × Nat) := do
  if c.url.scheme ≠ "http" then none
  let authority ← c.url.authority
  return (← authority.host, authority.port.getD 80)

/-- **The call that a command makes.** A delivery is signed before it is known where it goes. -/
def Arguments.call (a : Arguments) : Except RequestFault Call := do
  match a.command with
  | .health =>
    let url ← a.goal
    return { url, request := { method := "GET", target := targetOf url } }
  | .send s =>
    let signature ← s.signature
    let url ← a.goal
    let headers :=
      [("content-type", Bytes.ofString "application/json"),
       (Webhook.eventHeader, Bytes.ofString Webhook.jobEvent)] ++ signature ++
      [lengthHeader s.body]
    return { url, request := { method := "POST", target := targetOf url, headers, body := s.body } }

end RunnerDispatch.Operator

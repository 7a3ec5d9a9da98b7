import RunnerDispatch.Bytes

/-!
# Responses

* `Response.plain`, `Response.json`, `Response.bare`: responses by the kind of their body.
* `Response.headers`: what is sent before the body.
* `Response.forMethod`: what a method gets of a response; **HEAD gets no body**.
-/

namespace RunnerDispatch.Http

/-- The answer to a request. -/
structure Response where
  status : Nat
  contentType : Option String := none
  /-- The methods that would have been right. -/
  allow : Option String := none
  /-- The identifier that the request came with. Without one a fresh one is made. -/
  requestId : Option Bytes := none
  body : String := ""
  deriving DecidableEq, Repr

namespace Response

/-- A response with a plain text. -/
def plain (status : Nat) (body : String) : Response :=
  { status, contentType := some "text/plain; charset=utf-8", body }

/-- A response with a JSON text. -/
def json (status : Nat) (body : String) : Response :=
  { status, contentType := some "application/json", body }

/-- A response without a body. -/
def bare (status : Nat) : Response := { status }

/-- The headers of a response, given a fresh identifier. -/
def headers (r : Response) (fresh : String) : List (String × Bytes) :=
  (r.contentType.map fun t => ("content-type", Bytes.ofString t)).toList ++
    (r.allow.map fun methods => ("allow", Bytes.ofString methods)).toList ++
    [("x-request-id", r.requestId.getD (Bytes.ofString fresh))]

/-- What a method gets of a response. -/
def forMethod (method : String) (r : Response) : Response :=
  if method = "HEAD" then { r with body := "" } else r

end Response

end RunnerDispatch.Http

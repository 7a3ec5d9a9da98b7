import RunnerDispatch.Flavor
import RunnerDispatch.Job.Status
import RunnerDispatch.Json.Printer
import RunnerDispatch.Json.Reader

/-!
# What becomes of a job

A job is forwarded to a flavor or passed over because of its state. The answer to a delivery says so in
JSON, as a record with a tag and one member.

* `Outcome.body`: the JSON text of an outcome.
* `Outcome.decode`: the outcome of a JSON text. **The tag may stand anywhere among the members**, and
  a list of the tag and the member's value stands for the record.
-/

namespace RunnerDispatch

/-- What became of a job that was accepted. -/
inductive Outcome
  /-- It waits in the queue of a flavor. -/
  | forwarded (flavor : Flavor)
  /-- It was passed over because of its state. -/
  | skipped (status : JobStatus)
  deriving DecidableEq

namespace Outcome

/-- The outcome as a JSON value. -/
def value : Outcome → Json.Value
  | forwarded f => .record [("status", .text "forwarded"), ("flavor", .text f.name)]
  | skipped s => .record [("status", .text "ignored"), ("job_status", .text s.name)]

/-- **The JSON text of an outcome.** -/
def body (o : Outcome) : String := o.value.compact

/-- The tags of outcomes. -/
inductive Tag
  | forwarded
  | ignored
  deriving DecidableEq, Repr

/-- The tags by name. -/
def tags : List (String × Tag) := [("forwarded", .forwarded), ("ignored", .ignored)]

/-- The flavor of a name, or the fault that the name is malformed. -/
def flavorNamed (name : String) : Except Json.Cause Flavor :=
  match Flavor.ofName? name with
  | some f => .ok f
  | none => .error (.refused (Flavor.malformedMessage name))

/-- The flavor that a value names. -/
def flavorOf : Json.Value → Except Json.Cause Flavor
  | .text s => flavorNamed s
  | v => .error (.wrongType v.found "a string")

/-- The state that a value names. -/
def statusOf (v : Json.Value) : Except Json.Cause JobStatus :=
  let named := Json.chosen (JobStatus.all.map fun s => (s.name, s))
  match v with
  | .text s => named s
  | .record [(name, inside)] => do
    let status ← named name
    match inside with
    | .null => return status
    | .record [] => return status
    | other => throw (.wrongType other.found "unit")
  | .record _ => .error (.wrongValue .record "map with a single key")
  | v => .error (.wrongType v.found "string or map")

/-- The one member of that name that a record has. -/
def soleMember {α : Type} (name : String) (meaning : Json.Value → Except Json.Cause α) :
    (found : Option α) → List (String × Json.Value) → Except Json.Cause α
  | some a, [] => .ok a
  | none, [] => .error (.missingMember name)
  | found, (n, v) :: members =>
    if n ≠ name then soleMember name meaning found members
    else if found.isSome then .error (.duplicateMember name)
    else
      match meaning v with
      | .ok a => soleMember name meaning (some a) members
      | .error e => .error e

/-- The value that a record has as a member, or that a list consists of. -/
def content {α : Type} (variant name : String) (meaning : Json.Value → Except Json.Cause α) :
    Json.Value → Except Json.Cause α
  | .record members => soleMember name meaning none members
  | .list [] =>
    .error (.wrongLength 0 ("struct variant WebhookResponse::" ++ variant ++ " with 1 element"))
  | .list (v :: vs) => do
    let a ← meaning v
    if vs.isEmpty then return a
    throw (.wrongLength (vs.length + 1) "1 element in sequence")
  | v => .error (.wrongType v.found ("struct variant WebhookResponse::" ++ variant))

/-- The outcome with this tag and content. -/
def ofTagged (tag : Tag) (v : Json.Value) : Except Json.Cause Outcome :=
  match tag with
  | .forwarded => (content "Forwarded" "flavor" flavorOf v).map forwarded
  | .ignored => (content "Ignored" "job_status" statusOf v).map skipped

/-- Reads a tag. -/
def readTag : Json.Reader Tag := Json.readTextAs "variant identifier" (Json.chosen tags)

/-- Reads members and the tag among them. -/
def readTaggedMembers : (fuel : Nat) → (first : Bool) → (tag : Option Tag) →
    (read : List (String × Json.Value)) → Json.Reader (Tag × Json.Value)
  | 0, _, _, _, s => .error (.before .endInRecord s)
  | fuel + 1, first, tag, read, s =>
    match Json.nextName first s with
    | .error e => .error e
    | .ok none =>
      match tag with
      | some tag => .ok ((tag, .record read.reverse), s)
      | none => .error (.loose (.missingMember "status") s)
    | .ok (some (name, s)) =>
      if name = "status" ∧ tag.isSome then .error (.loose (.duplicateMember "status") s)
      else
        match Json.readColon s with
        | .error e => .error e
        | .ok s =>
          if name = "status" then
            match readTag s with
            | .ok (tag, s) => readTaggedMembers fuel false (some tag) read s
            | .error e => .error e
          else
            match Json.readValue fuel (Json.depthLimit - 1) s with
            | .ok (v, s) => readTaggedMembers fuel false tag ((name, v) :: read) s
            | .error e => .error e

/-- Reads a list that begins with a tag. -/
def readTaggedItems (fuel : Nat) : Json.Reader (Tag × Json.Value) := fun s =>
  match Json.nextItem true s with
  | .error e => .error e
  | .ok none => .error (.loose (.missingMember "status") s)
  | .ok (some s) => do
    let (tag, s) ← readTag s
    let (items, s) ← Json.readItems (Json.readValue fuel (Json.depthLimit - 1)) fuel false [] s
    return ((tag, .list items), s)

/-- Reads a tag and its content. -/
def readTagged (fuel : Nat) : Json.Reader (Tag × Json.Value) := fun s =>
  match Json.skipBlank s with
  | [] => .error (.onNext .endInValue [])
  | b :: s =>
    if b = Text.Ascii.openBrace then
      Json.conclude Json.closeRecord (readTaggedMembers fuel true none [] s)
    else if b = Text.Ascii.openBracket then
      Json.conclude Json.closeList (readTaggedItems fuel s)
    else .error (Json.wrongType "internally tagged enum WebhookResponse" (b :: s))

/-- Reads an outcome. -/
def readOutcome (fuel : Nat) : Json.Reader Outcome := fun s => do
  let ((tag, v), s) ← readTagged fuel s
  match ofTagged tag v with
  | .ok o => return (o, s)
  | .error c => throw (.loose c s)

/-- **The outcome of a JSON text.** -/
def decode (text : Bytes) : Except Json.Fault Outcome := Json.readWhole readOutcome text

end Outcome

namespace Flavor

/-- The flavor of a JSON text. -/
def decode (text : Bytes) : Except Json.Fault Flavor :=
  Json.readWhole (fun _ s => do
    let (name, s) ← Json.readString s
    match Outcome.flavorNamed name with
    | .ok f => return (f, s)
    | .error c => throw (.loose c s)) text

end Flavor

end RunnerDispatch

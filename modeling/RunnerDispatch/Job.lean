import RunnerDispatch.Job.Status
import RunnerDispatch.Json.Printer
import RunnerDispatch.Json.Shape
import RunnerDispatch.SortedSet
import RunnerDispatch.Url.Parser

/-!
# Jobs

A job is what a delivery is about: the labels it asks for as they were sent, its state, and where it can
be looked up. Jobs wait in queues as JSON messages.

* `Job.message`: **the message of a job**; its labels are in order and without repetition.
* `Job.decode`: the job of a message.
-/

namespace RunnerDispatch

/-- A job as it was announced. -/
structure Job where
  labels : SortedSet String
  status : JobStatus
  url : Url
  deriving DecidableEq

/-- Reads the name of a state. -/
def JobStatus.read : Json.Reader JobStatus :=
  Json.readVariant (JobStatus.all.map fun s => (s.name, s))

/-- The state that a JSON text names. -/
def JobStatus.decode (text : Bytes) : Except Json.Fault JobStatus :=
  Json.readWhole (fun _ => JobStatus.read) text

namespace Job

/-- A job with these labels, in any order and with repetitions. -/
def ofLabels (labels : List String) (status : JobStatus) (url : Url) : Job :=
  ⟨SortedSet.ofList labels, status, url⟩

/-- The job as a JSON value. -/
def value (j : Job) : Json.Value :=
  .record [("labels", .list (j.labels.toList.map .text)), ("status", .text j.status.name),
    ("url", .text j.url.text)]

/-- **The message of a job.** -/
def message (j : Job) : String := j.value.compact

/-- The URL of a text, or why it has none. -/
def urlOf (s : String) : Except Json.Cause Url :=
  match Url.parse s with
  | .ok u => .ok u
  | .error e => .error (.refused (e.message ++ ": " ++ Text.Quoted.quote s))

/-- Reads a URL. -/
def readUrl : Json.Reader Url := Json.readTextAs "a string representing an URL" urlOf

/-- The members of a message that have been read. -/
structure Partial where
  labels : Option (List String) := none
  status : Option JobStatus := none
  url : Option Url := none

/-- The record of a job. -/
def shape : Json.Shape Partial Job where
  title := "struct Job"
  fields :=
    [{ name := "labels", isSet := (·.labels.isSome),
       read := fun fuel p s => (Json.readTexts fuel s).map fun (v, s) => ({ p with labels := v }, s) },
      { name := "status", isSet := (·.status.isSome),
        read := fun _ p s => (JobStatus.read s).map fun (v, s) => ({ p with status := v }, s) },
      { name := "url", isSet := (·.url.isSome),
        read := fun _ p s => (readUrl s).map fun (v, s) => ({ p with url := v }, s) }]
  blank := {}
  complete := fun p =>
    match p.labels, p.status, p.url with
    | some labels, some status, some url => .ok (ofLabels labels status url)
    | none, _, _ => .error "labels"
    | _, none, _ => .error "status"
    | _, _, none => .error "url"

/-- **The job of a message.** -/
def decode (text : Bytes) : Except Json.Fault Job := Json.readWhole (Json.readRecord shape) text

end Job

end RunnerDispatch

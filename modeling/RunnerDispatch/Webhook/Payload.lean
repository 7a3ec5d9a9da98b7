import RunnerDispatch.Job

/-!
# Deliveries

A delivery names its event in a header and describes the job in its body. **Only the event
`workflow_job` is read**, and of its body only the action, the labels and the address of the run.

* `Webhook.checkEvent`: whether the event is the one that is read.
* `Webhook.parseJob`: the job of a body.
-/

namespace RunnerDispatch.Webhook

/-- Why a delivery has no job. -/
inductive DeliveryFault
  | noEvent
  | otherEvent (name : String)
  | malformed (reason : String)
  deriving DecidableEq, Repr

def DeliveryFault.message : DeliveryFault → String
  | noEvent => "X-GitHub-Event header is missing"
  | otherEvent name => "event `" ++ name ++ "` is not supported, only `workflow_job` is routed"
  | malformed reason => "could not parse webhook: " ++ reason

/-- The header that names the event. -/
def eventHeader : String := "x-github-event"

/-- The event that is read. -/
def jobEvent : String := "workflow_job"

/-- Whether a delivery is of the event that is read. -/
def checkEvent : Option String → Except DeliveryFault Unit
  | none => .error .noEvent
  | some name => if name = jobEvent then .ok () else .error (.otherEvent name)

/-- What a body says about the job itself. -/
structure Run where
  labels : List String
  url : Url

/-- What has been read of the job. -/
structure PartialRun where
  labels : Option (List String) := none
  url : Option Url := none

/-- The record of the job in a body. -/
def runShape : Json.Shape PartialRun Run where
  title := "struct WorkflowJob"
  fields :=
    [{ name := "labels", isSet := (·.labels.isSome),
       read := fun fuel p s => (Json.readTexts fuel s).map fun (v, s) => ({ p with labels := v }, s) },
      { name := "run_url", isSet := (·.url.isSome),
        read := fun _ p s => (Job.readUrl s).map fun (v, s) => ({ p with url := v }, s) }]
  blank := {}
  complete := fun p =>
    match p.labels, p.url with
    | some labels, some url => .ok ⟨labels, url⟩
    | none, _ => .error "labels"
    | _, none => .error "run_url"

/-- What has been read of a body. -/
structure PartialBody where
  action : Option JobStatus := none
  run : Option Run := none

/-- The record that is a body. -/
def bodyShape : Json.Shape PartialBody Job where
  title := "struct WorkflowJobEvent"
  fields :=
    [{ name := "action", isSet := (·.action.isSome),
       read := fun _ p s => (JobStatus.read s).map fun (v, s) => ({ p with action := v }, s) },
      { name := "workflow_job", isSet := (·.run.isSome),
        read := fun fuel p s =>
          (Json.readRecord runShape fuel s).map fun (v, s) => ({ p with run := v }, s) }]
  blank := {}
  complete := fun p =>
    match p.action, p.run with
    | some action, some run => .ok (Job.ofLabels run.labels action run.url)
    | none, _ => .error "action"
    | _, none => .error "workflow_job"

/-- **The job of a body.** -/
def parseJob (body : Bytes) : Except DeliveryFault Job :=
  match Json.readWhole (Json.readRecord bodyShape) body with
  | .ok job => .ok job
  | .error e => .error (.malformed (e.message body))

end RunnerDispatch.Webhook

import RunnerDispatch.Metrics
import RunnerDispatch.Outcome
import RunnerDispatch.Queue
import RunnerDispatch.Routing.Table

/-!
# Dispatching jobs

A job that asks for a runner goes to the queue of the flavor that its labels resolve to.

* `Backend`: anything that takes jobs, given by what taking one does to its state and by when it can.
* `forward`: dispatches one job. **The backend is asked at most once**, and only for a queued job whose
  labels resolve; what it answers is passed on.
-/

namespace RunnerDispatch

/-- Why a job was not dispatched. -/
inductive DispatchFault (ε : Type)
  | noMatch (e : Routing.NoMatch)
  | queue (e : ε)

def DispatchFault.message {ε : Type} (inner : ε → String) : DispatchFault ε → String
  | noMatch e => "not able to forward job: " ++ e.message
  | queue e => "failed to enqueue job: " ++ inner e

/-- What taking a job comes to: an answer, the state afterwards and what was reported. -/
abbrev Taking (σ ε : Type) := Except ε Unit × σ × List Log.Record

/-- Anything that takes jobs for flavors, with a state of type `σ` and faults of type `ε`. -/
structure Backend (σ ε : Type) where
  add : Job → Flavor → σ → Taking σ ε
  /-- Whether jobs can be added now. -/
  canConnect : σ → Bool
  /-- The wording of a fault. -/
  explain : ε → String

/-- The queue in memory as a backend. -/
def Queue.backend : Backend Queue QueueFault where
  add job flavor q :=
    let added := q.add job flavor
    (added.result, added.queue, added.records)
  canConnect := Queue.canConnect
  explain := QueueFault.message

/-- What dispatching a job came to. -/
structure Dispatched (σ ε : Type) where
  result : Except (DispatchFault ε) Outcome
  state : σ
  records : List Log.Record
  /-- The series that are incremented. -/
  counted : List Series

/-- Labels as they are listed in a record. -/
def listLabels (labels : SortedSet String) : String :=
  "\x7b" ++ ", ".intercalate (labels.toList.map Text.Quoted.quote) ++ "\x7d"

section

variable {σ ε : Type}

/-- **Dispatches one job.** -/
def forward (table : Routing.Table) (backend : Backend σ ε) (job : Job) (state : σ) :
    Dispatched σ ε :=
  let url := ("url", Log.FieldValue.text job.url.text)
  if !job.status.isRoutable then
    ⟨.ok (.skipped job.status), state,
      [⟨.debug, .dispatch, "Ignoring job that is not queued",
        [("status", .text job.status.name), url]⟩],
      [.skipped job.status]⟩
  else
    match table.resolve job.labels.toList with
    | .error e =>
      ⟨.error (.noMatch e), state,
        [⟨.warn, .dispatch, "Rejecting job", [url, ("error", .text e.message)]⟩], [.rejected]⟩
    | .ok flavor =>
      let announcement : Log.Record :=
        ⟨.info, .dispatch, "Forwarding job",
          [url, ("flavor", .text flavor.name), ("labels", .text (listLabels job.labels))]⟩
      match backend.add job flavor state with
      | (.ok (), state, records) =>
        ⟨.ok (.forwarded flavor), state, announcement :: records, [.forwarded flavor]⟩
      | (.error e, state, records) => ⟨.error (.queue e), state, announcement :: records, []⟩

end

/-- A table and its queue in full, for people who look for mistakes. -/
def describe (table : Routing.Table) (q : Queue) : String :=
  let flavors := table.flavors.map fun f => "Flavor(" ++ Text.Quoted.quote f.name ++ ")"
  "JobRouter \x7b flavors: [" ++ ", ".intercalate flavors ++ "], entries: " ++ toString table.size ++
    ", queue: " ++ q.describe ++ " \x7d"

end RunnerDispatch

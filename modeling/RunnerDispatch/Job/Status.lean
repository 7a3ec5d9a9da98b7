/-!
# The state of a job

A delivery announces that a job has reached a state. **Only a queued job asks for a runner.**
-/

namespace RunnerDispatch

/-- State of a job in its life. -/
inductive JobStatus
  | queued
  | inProgress
  | completed
  | waiting
  deriving DecidableEq, Repr

namespace JobStatus

/-- All states. -/
def all : List JobStatus := [.queued, .inProgress, .completed, .waiting]

/-- The name of a state, in payloads and messages. -/
def name : JobStatus → String
  | queued => "queued"
  | inProgress => "in_progress"
  | completed => "completed"
  | waiting => "waiting"

/-- The state of that name. -/
def ofName? (name : String) : Option JobStatus := all.find? (·.name == name)

/-- Whether a job in this state is to be given a runner. -/
def isRoutable (s : JobStatus) : Bool := s == queued

end JobStatus

end RunnerDispatch

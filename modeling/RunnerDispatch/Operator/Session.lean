import RunnerDispatch.Http.Wire
import RunnerDispatch.Operator.Delivery
import RunnerDispatch.Operator.Reply

/-!
# An operator's session

One command line is one call, and the reply to it ends the command.

* `attend`: **what a command line comes to**, however calls are made.
-/

namespace RunnerDispatch.Operator

/-- The end of a command line that is not carried out. -/
def Conclusion.misunderstood (fault : CommandLine.Fault) : Conclusion :=
  { exit := fault.exit, complaint := fault.message ++ "\n" }

/-- **What a command line comes to.** A call may fail for a reason of its own. -/
def attend {m : Type → Type} [Monad m] (make : Call → m (Except String Http.Reply)) (words : List String)
    (secret : Option String) : m Conclusion :=
  match Arguments.read words secret with
  | .error fault => pure (.misunderstood fault)
  | .ok arguments =>
    match arguments.call with
    | .error fault => pure (.failed (errorLine fault.message))
    | .ok call => do
      match ← make call with
      | .error reason => return .failed (errorLine reason)
      | .ok reply => return conclude reply.status reply.body

end RunnerDispatch.Operator

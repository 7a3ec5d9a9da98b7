import RunnerDispatch.Http.Status
import RunnerDispatch.Json.Printer
import RunnerDispatch.Json.Reader
import RunnerDispatch.Text.Utf8

/-!
# Replies to an operator

* `conclude`: **a success is printed as JSON, anything else ends the command with an error**.
-/

namespace RunnerDispatch.Operator

/-- What a command leaves behind. -/
structure Conclusion where
  exit : Nat
  output : String := ""
  /-- What goes to the operator's attention. -/
  complaint : String := ""
  deriving DecidableEq, Repr

/-- The end of a command that went wrong. -/
def Conclusion.failed (complaint : String) : Conclusion := { exit := 1, complaint }

/-- The last line of a command that went wrong. -/
def errorLine (reason : String) : String := "Error: " ++ reason ++ "\n"

/-- **What a command makes of a response.** -/
def conclude (status : Nat) (body : Bytes) : Conclusion :=
  if Http.Status.isSuccess status then
    match Json.Value.parse body with
    | .ok v => { exit := 0, output := v.dropRepeats.pretty ++ "\n" }
    | .error e => .failed (errorLine (e.message body))
  else
    .failed ("Response: " ++ Text.Utf8.lossy body ++ "\n" ++
      errorLine ("\"router returned status " ++ Http.Status.describe status ++ "\""))

end RunnerDispatch.Operator

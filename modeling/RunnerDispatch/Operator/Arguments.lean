import RunnerDispatch.CommandLine.Grammar

/-!
# What an operator asks for

* `Command`: to look after the health of a service, or to send it a delivery.
* `Arguments.read`: **the command of a command line**. The secret may also come from the environment.
-/

namespace RunnerDispatch.Operator

/-- A delivery made by hand. -/
structure Sending where
  labels : List String := []
  action : String := "queued"
  runUrl : String := "https://api.github.com/repos/octo/repo/actions/runs/1"
  secret : Option String := none
  path : String := "/webhook"
  deriving DecidableEq, Repr

/-- What an operator asks for. -/
inductive Command
  | health
  | send (s : Sending)
  deriving DecidableEq, Repr

/-- A command, and the service it is for. -/
structure Arguments where
  url : String := "http://localhost:8080"
  command : Command
  deriving DecidableEq, Repr

open CommandLine (Switch Grammar Given)

/-- The options of a delivery. -/
def sendSwitches : List Switch :=
  [{ long := "labels", short := some 'l', repeats := true },
   { long := "action", short := some 'a' },
   { long := "run-url" },
   { long := "secret", short := some 's' },
   { long := "path", short := some 'p' }]

/-- What the operator's command line may say. -/
def grammar : Grammar where
  switches := [{ long := "url", short := some 'u' }]
  commands := [("health", []), ("send", sendSwitches)]

/-- The delivery that options describe. Labels are set apart by commas. -/
def Sending.ofGiven (given : Given) (secret : Option String) : Sending :=
  let standard : Sending := {}
  { labels := (given.values "labels").flatMap (·.splitOn ",")
    action := (given.value? "action").getD standard.action
    runUrl := (given.value? "run-url").getD standard.runUrl
    secret := (given.value? "secret").or secret
    path := (given.value? "path").getD standard.path }

namespace Arguments

/-- **The command of a command line.** -/
def read (words : List String) (secret : Option String) : Except CommandLine.Fault Arguments := do
  let parsed ← grammar.parse words
  let command := match parsed.command with
    | some ("send", given) => Command.send (.ofGiven given secret)
    | _ => .health
  let standard : Arguments := { command }
  return { url := (parsed.given.value? "url").getD standard.url, command }

end Arguments

end RunnerDispatch.Operator

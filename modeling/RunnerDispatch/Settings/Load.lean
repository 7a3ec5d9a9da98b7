import RunnerDispatch.Settings.Problem
import RunnerDispatch.Settings.Sections
import RunnerDispatch.Toml.Document

/-!
# Loading settings

Settings come from a file, in which the environment replaces the secret and the address of the queue.

* `Environment`: what the environment sets.
* `Settings.parse`: the settings of a text.
* `Settings.load`: **the settings of a file in an environment**, if there is no problem with them.
-/

namespace RunnerDispatch

/-- What the environment sets. -/
structure Environment where
  secret : Option String := none
  queueUrl : Option String := none
  logFilter : Option String := none
  deriving DecidableEq, Repr

/-- Why there are no settings. -/
inductive LoadFault
  | unreadable (reason : String)
  | malformed (reason : String)
  | invalid (problems : List Problem)
  deriving DecidableEq, Repr

/-- The problems in one line. -/
def listProblems (problems : List Problem) : String :=
  "Validation failed: " ++ ", ".intercalate (problems.map Problem.message)

def LoadFault.message : LoadFault → String
  | unreadable reason => "IO error: " ++ reason
  | malformed reason => "Parse error: " ++ reason
  | invalid problems => listProblems problems

/-- The message of what lies behind a fault. -/
def LoadFault.cause? : LoadFault → Option String
  | unreadable reason => some reason
  | malformed reason => some reason
  | invalid _ => none

namespace Settings

/-- The settings of a text. -/
def parse (text : String) : Except LoadFault Settings :=
  match (Toml.parse text).bind ofToml? with
  | some s => .ok s
  | none => .error (.malformed "not a configuration")

/-- The settings with what the environment sets. -/
def override (s : Settings) (env : Environment) : Settings :=
  { s with
    webhook := { s.webhook with secret := env.secret.or s.webhook.secret }
    queue := { s.queue with url := env.queueUrl.getD s.queue.url } }

/-- The settings, if there is no problem with them. -/
def validate [Log.PatternSyntax] (s : Settings) : Except LoadFault Settings :=
  if s.problems.isEmpty then .ok s else .error (.invalid s.problems)

/-- The text of a file, which may be missing. -/
def readText : Option Bytes → Except LoadFault String
  | none => .error (.unreadable "no such file")
  | some bytes =>
    match Bytes.toString? bytes with
    | some text => .ok text
    | none => .error (.unreadable "not a text")

/-- **The settings of a file in an environment.** -/
def load [Log.PatternSyntax] (file : Option Bytes) (env : Environment) : Except LoadFault Settings := do
  let text ← readText file
  let s ← parse text
  (s.override env).validate

end Settings

end RunnerDispatch

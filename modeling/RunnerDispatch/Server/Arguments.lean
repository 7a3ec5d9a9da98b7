import RunnerDispatch.CommandLine.Grammar

/-!
# What the server is asked for

* `Arguments.read`: **the file to configure the server with, and whether only to check it**.
-/

namespace RunnerDispatch.Server

/-- What the server is asked for. -/
structure Arguments where
  configFile : String := "webhook-router.toml"
  /-- Print the table and stop. -/
  check : Bool := false
  deriving DecidableEq, Repr

/-- What the server's command line may say. -/
def grammar : CommandLine.Grammar where
  switches := [{ long := "config", short := some 'c' }, { long := "check", takesValue := false }]

/-- **What a command line asks for.** -/
def Arguments.read (words : List String) : Except CommandLine.Fault Arguments := do
  let parsed ← grammar.parse words
  let standard : Arguments := {}
  return {
    configFile := (parsed.given.value? "config").getD standard.configFile
    check := parsed.given.has "check" }

end RunnerDispatch.Server

import RunnerDispatch.Shutdown

/-!
# Serving until told to stop

* `Ending`: how a server comes to its end.
* `serveUntil`: **on a signal the server is told to stop and then waited for; a server that ends before
  gives its own result**.
-/

namespace RunnerDispatch

/-- What comes first. -/
inductive First
  | signal
  | server
  deriving DecidableEq, Repr

/-- How a server comes to its end. -/
inductive Ending (ε : Type)
  | finished
  | failed (e : ε)
  /-- Without a result of its own. -/
  | crashed (reason : String)
  deriving DecidableEq, Repr

/-- What serving came to. -/
structure Served (ε : Type) where
  result : Except ε Unit
  state : Shutdown
  records : List Log.Record

/-- What an ending comes to. A crash is reported, and no fault of the service. -/
def Ending.conclude {ε : Type} : Ending ε → Except ε Unit × List Log.Record
  | finished => (.ok (), [])
  | failed e => (.error e, [])
  | crashed reason =>
    (.ok (), [⟨.error, .shutdown, "HTTP server task failed", [("error", .text reason)]⟩])

/-- **Serves until the signal comes or the server ends.** -/
def serveUntil {ε : Type} (first : First) (ending : Ending ε) (shutdown : Shutdown) : Served ε :=
  let (result, records) := ending.conclude
  match first with
  | .signal =>
    let t := shutdown.trigger
    ⟨result, t.state, t.records ++ records⟩
  | .server =>
    ⟨result, shutdown,
      ⟨.error, .shutdown, "HTTP server exited before a shutdown signal", []⟩ :: records⟩

end RunnerDispatch

import RunnerDispatch.Log.Record

/-!
# The signal to stop

Whoever has a handle can tell all listeners to stop. **The latest signal is kept** until every listener has
had it: one that was slow is told how many signals it missed, and then gets the latest. Without listeners
nothing is kept.

* `Shutdown.subscribe`, `Shutdown.drop`: listeners come and go.
* `Shutdown.trigger`: gives the signal.
* `Shutdown.receive`: what a listener gets without waiting.
-/

namespace RunnerDispatch

/-- Signals are numbered from zero. A listener knows the number of the signal it is to get next. -/
structure Shutdown where
  /-- Handles that are left. -/
  handles : Nat := 1
  /-- The number of the next signal. -/
  next : Nat := 0
  /-- The number that each listener is to get next, none once it is gone. -/
  listeners : List (Option Nat) := []
  deriving DecidableEq, Repr

/-- What a listener gets. -/
inductive Received
  | signal
  | empty
  /-- Nothing is left, and nobody can give a signal any more. -/
  | closed
  /-- So many signals are gone. -/
  | lagged (missed : Nat)
  deriving DecidableEq, Repr

namespace Shutdown

/-- How many listeners are left. -/
def receivers (s : Shutdown) : Nat := s.listeners.countP Option.isSome

/-- Adds a listener, who gets the signals from now on. -/
def subscribe (s : Shutdown) : Nat × Shutdown :=
  (s.listeners.length, { s with listeners := s.listeners ++ [some s.next] })

/-- A listener goes. -/
def drop (s : Shutdown) (listener : Nat) : Shutdown :=
  { s with listeners := s.listeners.set listener none }

/-- One more handle. -/
def clone (s : Shutdown) : Shutdown := { s with handles := s.handles + 1 }

/-- One handle less. -/
def dropHandle (s : Shutdown) : Shutdown := { s with handles := s.handles - 1 }

/-- What giving the signal came to. -/
structure Triggered where
  listeners : Nat
  state : Shutdown
  records : List Log.Record

/-- **Gives the signal** to all listeners. -/
def trigger (s : Shutdown) : Triggered :=
  let n := s.receivers
  { listeners := n
    state := if n = 0 then s else { s with next := s.next + 1 }
    records := [⟨.info, .shutdown, "Shutdown triggered", [("listeners", .number n)]⟩] }

/-- **What a listener gets without waiting.** -/
def receive (s : Shutdown) (listener : Nat) : Option Received × Shutdown :=
  match s.listeners[listener]?.join with
  | none => (none, s)
  | some due =>
    if due = s.next then (some (if s.handles = 0 then .closed else .empty), s)
    else
      let latest := s.next - 1
      if due = latest then
        (some .signal, { s with listeners := s.listeners.set listener (some s.next) })
      else
        (some (.lagged (latest - due)),
          { s with listeners := s.listeners.set listener (some latest) })

end Shutdown

end RunnerDispatch

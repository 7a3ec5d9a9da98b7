import RunnerDispatch.Flavor
import RunnerDispatch.Job
import RunnerDispatch.Log.Record

/-!
# Queues in memory

Jobs wait as messages, in one line for each flavor. All lines have the same capacity, and one flag closes
them all to new jobs; what waits can still be taken.

* `Queue.waiting`: the messages of a flavor, the oldest first.
* `Queue.add`: **a closed queue refuses every job, an open one those of a full line**.
* `Queue.take`, `Queue.takeJob`: the oldest message, and the job in it.
-/

namespace RunnerDispatch

/-- Why a queue did not do what it was asked. -/
inductive QueueFault
  | full (flavor : Flavor) (capacity : Nat)
  | closed
  /-- A message holds no job. -/
  | unreadable (reason : String)
  /-- The server that keeps the queues does not answer. -/
  | unreachable
  deriving DecidableEq

def QueueFault.message : QueueFault → String
  | full flavor capacity =>
    "queue for flavor `" ++ flavor.name ++ "` is full (" ++ toString capacity ++ " pending jobs)"
  | closed => "queue backend is closed"
  | unreadable reason => "invalid job message: " ++ reason
  | unreachable => "mongodb: server selection timeout"

/-- A line of messages for each flavor that ever had one. -/
structure Queue where
  capacity : Nat
  closed : Bool := false
  lines : List (Flavor × List String) := []
  deriving DecidableEq

namespace Queue

/-- The line under a name; a name without a line has an empty one. -/
def lineOf (name : String) : List (Flavor × List String) → List String
  | [] => []
  | (f, line) :: lines => if f.name = name then line else lineOf name lines

/-- Replaces the line of a flavor, or adds it. -/
def putLine (flavor : Flavor) (line : List String) :
    List (Flavor × List String) → List (Flavor × List String)
  | [] => [(flavor, line)]
  | (f, l) :: lines => if f = flavor then (f, line) :: lines else (f, l) :: putLine flavor line lines

theorem lineOf_putLine (flavor : Flavor) (line : List String) (name : String)
    (lines : List (Flavor × List String)) :
    lineOf name (putLine flavor line lines) =
      if flavor.name = name then line else lineOf name lines := by
  induction lines with
  | nil => rfl
  | cons p lines ih =>
    obtain ⟨f, l⟩ := p
    by_cases hf : f = flavor
    · subst hf
      by_cases hn : f.name = name <;> simp [putLine, lineOf, hn]
    · by_cases hn : f.name = name
      · have hne : flavor.name ≠ name := by
          rintro rfl
          cases f; cases flavor; simp_all
        simp [putLine, lineOf, hf, hn, hne]
      · simp [putLine, lineOf, hf, hn, ih]

/-- The messages that wait under a name, the oldest first. -/
def waiting (q : Queue) (name : String) : List String := lineOf name q.lines

/-- Number of messages that wait under a name. -/
def pending (q : Queue) (name : String) : Nat := (q.waiting name).length

/-- Whether jobs are accepted. -/
def canConnect (q : Queue) : Bool := !q.closed

/-- Closes the queue to new jobs. -/
def close (q : Queue) : Queue := { q with closed := true }

/-- What adding a job came to. -/
structure Added where
  result : Except QueueFault Unit
  queue : Queue
  records : List Log.Record

/-- **Adds a job at the end of a flavor's line.** A line exists from the first job that an open queue was
asked to take. -/
def add (q : Queue) (job : Job) (flavor : Flavor) : Added :=
  if q.closed then ⟨.error .closed, q, []⟩
  else
    let line := q.waiting flavor.name
    if line.length ≥ q.capacity then
      ⟨.error (.full flavor q.capacity), { q with lines := putLine flavor line q.lines }, []⟩
    else
      let line := line ++ [job.message]
      let queue := { q with lines := putLine flavor line q.lines }
      ⟨.ok (), queue,
        [⟨.debug, .memoryQueue, "Job enqueued",
          [("flavor", .text flavor.name), ("pending", .number line.length)]⟩]⟩

/-- Drops the oldest message under a name. -/
def dropFirst (name : String) : List (Flavor × List String) → List (Flavor × List String)
  | [] => []
  | (f, line) :: lines =>
    if f.name = name then (f, line.tail) :: lines else (f, line) :: dropFirst name lines

/-- **Takes the oldest message under a name**, if there is one. -/
def take (q : Queue) (name : String) : Option String × Queue :=
  ((q.waiting name).head?, { q with lines := dropFirst name q.lines })

/-- Takes the oldest message under a name and reads the job in it. -/
def takeJob (q : Queue) (name : String) : Except QueueFault (Option Job) × Queue :=
  let (message, q) := q.take name
  let job := match message with
    | none => .ok none
    | some text =>
      let bytes := Bytes.ofString text
      match Job.decode bytes with
      | .ok job => .ok (some job)
      | .error e => .error (.unreadable (e.message bytes))
  (job, q)

/-- The queue in full, for people who look for mistakes. -/
def describe (q : Queue) : String :=
  let line := fun (f, messages) =>
    "Flavor(" ++ Text.Quoted.quote f.name ++ "): [" ++
      ", ".intercalate ((messages : List String).map Text.Quoted.quote) ++ "]"
  "InMemoryQueue \x7b queues: \x7b" ++ ", ".intercalate (q.lines.map line) ++ "\x7d, capacity: " ++
    toString q.capacity ++ ", closed: " ++ toString q.closed ++ " \x7d"

end Queue

end RunnerDispatch

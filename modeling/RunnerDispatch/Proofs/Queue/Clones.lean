import RunnerDispatch.Proofs.Queue.Lines
import RunnerDispatch.Proofs.Run

/-!
# Queues that are shared

Several parts of a program hold one queue. Each has a handle, which says where the lines and the flag are
kept; **a clone is a copy of the handle and not of what it points to**.

* `Queue.perform`: one operation on a queue.
* `Clones.step`: one call through one of the handles.
-/

namespace RunnerDispatch.Queue

/-- What can be asked of a queue. -/
inductive Operation
  | add (job : Job) (flavor : Flavor)
  | take (name : String)
  | pending (name : String)
  | close
  | canConnect

/-- What a queue answers. -/
inductive Answer
  | added (result : Except QueueFault Unit)
  | taken (message : Option String)
  | pending (count : Nat)
  | closed
  | canConnect (yes : Bool)

/-- Carries out one operation. -/
def perform : Machine Queue Operation Answer
  | q, .add job flavor => (.added (q.add job flavor).result, (q.add job flavor).queue)
  | q, .take name => (.taken (q.take name).1, (q.take name).2)
  | q, .pending name => (.pending (q.pending name), q)
  | q, .close => (.closed, q.close)
  | q, .canConnect => (.canConnect q.canConnect, q)

theorem capacity_perform (q : Queue) (op : Operation) : (q.perform op).2.capacity = q.capacity := by
  cases op with
  | add job flavor => exact capacity_add
  | take | pending | close | canConnect => rfl

/-- A handle on a queue: where its lines and its flag are kept, and the capacity of a line. -/
structure Handle where
  lines : Nat
  flag : Nat
  capacity : Nat

/-- What handles point to. -/
structure Memory where
  lines : Nat → List (Flavor × List String) := fun _ => []
  flag : Nat → Bool := fun _ => false

namespace Memory

/-- The queue behind a handle. -/
def load (m : Memory) (h : Handle) : Queue := ⟨h.capacity, m.flag h.flag, m.lines h.lines⟩

/-- Writes a queue back to where a handle points. -/
def store (m : Memory) (h : Handle) (q : Queue) : Memory where
  lines a := if a = h.lines then q.lines else m.lines a
  flag a := if a = h.flag then q.closed else m.flag a

theorem load_store (m : Memory) (h : Handle) {q : Queue} (hq : q.capacity = h.capacity) :
    (m.store h q).load h = q := by
  obtain ⟨capacity, closed, lines⟩ := q
  obtain rfl : capacity = h.capacity := hq
  simp only [load, store, if_true]

end Memory

/-- A queue in use, with its handles in the order in which they were made. -/
structure Clones where
  memory : Memory := {}
  handles : List Handle

/-- What a part of a program does: it makes a clone of a handle, or asks something through one. -/
inductive Call
  | clone (handle : Nat)
  | ask (handle : Nat) (op : Operation)

/-- What comes back. There may be no handle of that number. -/
inductive Reply
  | cloned (handle : Nat)
  | answer (a : Answer)
  | noHandle

namespace Clones

/-- A new queue, with one handle. -/
def start (capacity : Nat) : Clones := { handles := [⟨0, 0, capacity⟩] }

/-- One call. -/
def step : Machine Clones Call Reply
  | s, .clone i =>
    match s.handles[i]? with
    | some h => (.cloned s.handles.length, { s with handles := s.handles ++ [h] })
    | none => (.noHandle, s)
  | s, .ask i op =>
    match s.handles[i]? with
    | some h =>
      let (answer, q) := (s.memory.load h).perform op
      (.answer answer, { s with memory := s.memory.store h q })
    | none => (.noHandle, s)

end Clones

end RunnerDispatch.Queue

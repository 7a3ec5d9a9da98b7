import RunnerDispatch.Flavor
import RunnerDispatch.Job.Status

/-!
# Metrics

Counts of what happened since the service started, and the size of its routing table. An operation
returns the series it increments, and `Metrics.record` adds them up.

* `Metrics.count`: the count of a series, zero until it is first incremented.
* `count_record`: **recording adds to each series the times it is named**.
* `Metrics.lines`: the touched series as text, sorted.
-/

namespace RunnerDispatch

/-- A count that is kept. -/
inductive Series
  /-- Jobs handed to the queue of a flavor. -/
  | forwarded (flavor : Flavor)
  /-- Jobs passed over because of their state. -/
  | skipped (status : JobStatus)
  /-- Jobs whose labels no flavor offers. -/
  | rejected
  /-- Deliveries answered with a status code. -/
  | answered (status : Nat)
  /-- Deliveries whose handling was timed. -/
  | timed
  deriving DecidableEq

/-- The name of a series with the label that tells it from its siblings. -/
def Series.title : Series → String
  | forwarded f => "jobs_forwarded_total\x7bflavor=\"" ++ f.name ++ "\"\x7d"
  | skipped s => "jobs_skipped_total\x7bstatus=\"" ++ s.name ++ "\"\x7d"
  | rejected => "jobs_rejected_total"
  | answered n => "webhook_requests_total\x7bstatus=\"" ++ toString n ++ "\"\x7d"
  | timed => "webhook_request_duration_seconds_count"

/-- Size of a routing table: its entries and its flavors. -/
structure TableSize where
  entries : Nat
  flavors : Nat
  deriving DecidableEq, Repr

/-- The counts of the touched series, and the size of the table once there is one. -/
structure Metrics where
  counts : List (Series × Nat) := []
  table : Option TableSize := none

namespace Metrics

/-- Adds one to a series. -/
def bump (s : Series) : List (Series × Nat) → List (Series × Nat)
  | [] => [(s, 1)]
  | (t, n) :: rest => if t = s then (t, n + 1) :: rest else (t, n) :: bump s rest

/-- The count of a series. -/
def lookUp (s : Series) : List (Series × Nat) → Nat
  | [] => 0
  | (t, n) :: rest => if t = s then n else lookUp s rest

theorem lookUp_bump (s t : Series) (counts : List (Series × Nat)) :
    lookUp t (bump s counts) = lookUp t counts + if s = t then 1 else 0 := by
  induction counts with
  | nil => by_cases h : s = t <;> simp [bump, lookUp, h]
  | cons p rest ih =>
    obtain ⟨u, n⟩ := p
    by_cases hu : u = s <;> by_cases hut : u = t <;> simp_all [bump, lookUp, eq_comm]

/-- The count of a series, zero until it is first incremented. -/
def count (m : Metrics) (s : Series) : Nat := lookUp s m.counts

/-- Adds one for each series that an operation names. -/
def record (m : Metrics) (named : List Series) : Metrics :=
  { m with counts := named.foldl (fun counts s => bump s counts) m.counts }

/-- **Recording adds to each series the times it is named.** -/
theorem count_record (m : Metrics) (named : List Series) (s : Series) :
    (m.record named).count s = m.count s + named.count s := by
  obtain ⟨counts, table⟩ := m
  show lookUp s (named.foldl _ counts) = lookUp s counts + _
  induction named generalizing counts with
  | nil => simp
  | cons t ts ih =>
    rw [List.foldl_cons, ih, lookUp_bump, List.count_cons]
    by_cases h : t = s <;> simp [h, Nat.add_assoc, Nat.add_comm]

/-- Notes the size of the routing table. -/
def measure (m : Metrics) (size : TableSize) : Metrics := { m with table := some size }

/-- The touched series and sizes, one line each, sorted. -/
def lines (m : Metrics) : List String :=
  let counts := m.counts.map fun p => p.1.title ++ " " ++ toString p.2
  let sizes := match m.table with
    | some size =>
      ["routing_table_entries " ++ toString size.entries,
        "routing_table_flavors " ++ toString size.flavors]
    | none => []
  (counts ++ sizes).mergeSort fun a b => decide (a ≤ b)

end Metrics

end RunnerDispatch

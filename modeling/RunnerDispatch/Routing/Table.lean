import Std.Data.HashMap
import RunnerDispatch.Flavor
import RunnerDispatch.Label

/-!
# Routing tables

A table sends every combination of labels that some flavor offers to a flavor. A job is resolved by
one look-up, whatever the number of its labels.

* `Table.resolve`: the flavor for what a job asks. Asking for nothing gets the default flavor; asking
  only for ignored labels, or for a label that no flavor has, gets none.
* `Table.listing`: the table in a fixed order: **the flavor's rank, then the number of labels, then
  the labels**.
-/

namespace RunnerDispatch.Routing

/-- Labels in ascending order, without repetition. -/
abbrev Key := List Label

/-- What a job asks for is offered by no flavor. -/
structure NoMatch where
  /-- All labels the job asked for, the ignored ones included. -/
  labels : LabelSet
  deriving DecidableEq

def NoMatch.message (e : NoMatch) : String := "invalid label combination: " ++ e.labels.format

/-- The flavor for every combination of labels that is offered. -/
structure Table where
  routes : Std.HashMap Key Flavor
  default : Flavor
  /-- The declared flavors, in order. -/
  flavors : List Flavor
  ignored : LabelSet

namespace Table

/-- The flavor under exactly this key. -/
def lookup (t : Table) (key : Key) : Option Flavor := t.routes[key]?

/-- Number of combinations in the table. -/
def size (t : Table) : Nat := t.routes.size

/-- The flavor for the labels that a job asks for. -/
def resolve (t : Table) (asked : List String) : Except NoMatch Flavor :=
  let labels := LabelSet.normalize asked
  if labels.isEmpty then .ok t.default
  else
    let key := (labels \ t.ignored).toList
    if key.isEmpty then .error ⟨labels⟩
    else
      match t.lookup key with
      | some flavor => .ok flavor
      | none => .error ⟨labels⟩

/-- A combination with its flavor and the flavor's place among the declared ones. -/
structure Entry where
  rank : Nat
  key : Key
  flavor : Flavor

/-- The order of the listing. -/
def Entry.precedes (a b : Entry) : Bool :=
  a.rank < b.rank || a.rank == b.rank &&
    (a.key.length < b.key.length || a.key.length == b.key.length && decide (a.key ≤ b.key))

/-- All combinations with their flavors, in the order of the listing. -/
def listing (t : Table) : List (Key × Flavor) :=
  let entries := t.routes.toList.map fun (key, flavor) => Entry.mk (t.flavors.idxOf flavor) key flavor
  (entries.mergeSort Entry.precedes).map fun e => (e.key, e.flavor)

end Table

end RunnerDispatch.Routing

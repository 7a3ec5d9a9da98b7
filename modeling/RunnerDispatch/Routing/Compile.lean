import RunnerDispatch.Log.Record
import RunnerDispatch.Routing.Table

/-!
# Compiling declarations into a table

Each flavor is declared with the labels its runners have. A job may ask for any part of them, so a
declaration stands for all its non-empty subsets, and of several flavors that offer a combination the
first declared gets it.

* `Rules`: the declarations with the labels that carry no meaning, the limit and the default.
* `nonEmptySublists`: the combinations of a declaration's labels, one for every mask.
* `Rules.compile`: the table, or the first fault in the declarations.
-/

namespace RunnerDispatch.Routing

/-- A flavor and the labels of its runners, as written by the operator. -/
structure Declaration where
  name : String
  labels : List String
  deriving DecidableEq, Repr

/-- The highest limit on labels per flavor; a flavor then has about a million combinations. -/
def labelCeiling : Nat := 20

/-- The limit on labels per flavor unless another is set. -/
def standardLimit : Nat := 12

/-- What a table is compiled from. -/
structure Rules where
  declarations : List Declaration := []
  /-- The flavor of jobs that ask for nothing; the first declared one if unset. -/
  default : Option String := none
  /-- Labels that carry no meaning. -/
  ignored : List String := []
  /-- How many labels a flavor may have, the ignored ones aside. -/
  limit : Nat := standardLimit
  deriving DecidableEq, Repr

/-- Why declarations make no table. -/
inductive Fault
  | noFlavors
  | duplicateFlavor (name : String)
  | malformedName (name : String)
  | undeclaredDefault (name : String)
  | tooManyLabels (name : String) (count limit : Nat)
  | limitTooHigh (limit : Nat)
  deriving DecidableEq, Repr

def Fault.message : Fault → String
  | noFlavors => "flavor mapping must declare at least one flavor"
  | duplicateFlavor name => "flavor `" ++ name ++ "` is declared more than once"
  | malformedName name => Flavor.malformedMessage name
  | undeclaredDefault name => "default flavor `" ++ name ++ "` is not one of the declared flavors"
  | tooManyLabels name count limit =>
    "flavor `" ++ name ++ "` declares " ++ toString count ++ " labels, more than the limit of " ++
      toString limit
  | limitTooHigh limit =>
    "label limit " ++ toString limit ++ " exceeds the supported maximum of " ++
      toString labelCeiling

/-- The flavor of that name, or the fault that the name is malformed. -/
def namedFlavor (name : String) : Except Fault Flavor :=
  match Flavor.ofName? name with
  | some flavor => .ok flavor
  | none => .error (.malformedName name)

/-- The elements at the places of the bits that are set in a mask. -/
def select {α : Type} (mask : Nat) (placed : List (α × Nat)) : List α :=
  placed.filterMap fun (a, place) => if mask.testBit place then some a else none

/-- All parts of a list but the empty one, each in the order of the list: **one for every mask** with a bit for
each element. -/
def nonEmptySublists {α : Type} (as : List α) : List (List α) :=
  let placed := as.zipIdx
  (List.range' 1 (Nat.pow 2 as.length - 1)).map fun mask => select mask placed

/-- Gives a flavor the keys that no earlier flavor has. -/
def claim (routes : Std.HashMap Key Flavor) (flavor : Flavor) (keys : List Key) :
    Std.HashMap Key Flavor :=
  keys.foldl (fun routes key => routes.insertIfNew key flavor) routes

/-- What became of one declaration: its labels, and how many combinations it got and did not get. -/
structure Expansion where
  flavor : Flavor
  labels : Nat
  claimed : Nat
  shadowed : Nat

/-- The reports on one declaration; **shadowed combinations are reported only if there are any**. -/
def Expansion.records (e : Expansion) : List Log.Record :=
  let flavor := ("flavor", Log.FieldValue.text e.flavor.name)
  let shadowing : List Log.Record :=
    if e.shadowed > 0 then
      [⟨.debug, .routingTable, "Label combinations already claimed by an earlier flavor",
        [flavor, ("shadowed", .number e.shadowed)]⟩]
    else []
  shadowing ++
    [⟨.debug, .routingTable, "Expanded flavor",
      [flavor, ("labels", .number e.labels), ("claimed", .number e.claimed)]⟩]

/-- A table in the making. -/
structure Draft where
  routes : Std.HashMap Key Flavor := {}
  flavors : List Flavor := []
  expansions : List Expansion := []

/-- What compiling came to: the table or a fault, and what became of the declarations before it. -/
structure Compilation where
  expansions : List Expansion
  result : Except Fault Table

def Compilation.records (c : Compilation) : List Log.Record := c.expansions.flatMap Expansion.records

namespace Rules

/-- The ignored labels as a set. -/
def ignoredSet (r : Rules) : LabelSet := LabelSet.normalize r.ignored

/-- The labels of a declaration that count. -/
def offered (r : Rules) (d : Declaration) : LabelSet := LabelSet.normalize d.labels \ r.ignoredSet

/-- Adds one declaration to a draft. -/
def declare (r : Rules) (draft : Draft) (d : Declaration) : Except Fault Draft := do
  let flavor ← namedFlavor d.name
  if flavor ∈ draft.flavors then
    throw (.duplicateFlavor d.name)
  let labels := r.offered d
  if labels.size > r.limit then
    throw (.tooManyLabels d.name labels.size r.limit)
  let routes := claim draft.routes flavor (nonEmptySublists labels.toList)
  let claimed := routes.size - draft.routes.size
  let expansion := ⟨flavor, labels.size, claimed, Nat.pow 2 labels.size - 1 - claimed⟩
  return ⟨routes, draft.flavors ++ [flavor], draft.expansions ++ [expansion]⟩

/-- Adds declarations until one has a fault. -/
def declareAll (r : Rules) (draft : Draft) : List Declaration → Draft × Except Fault Unit
  | [] => (draft, .ok ())
  | d :: ds =>
    match r.declare draft d with
    | .ok draft => r.declareAll draft ds
    | .error fault => (draft, .error fault)

/-- The flavor of jobs that ask for nothing. -/
def defaultAmong (r : Rules) (flavors : List Flavor) : Except Fault Flavor :=
  match r.default with
  | some name => do
    let flavor ← namedFlavor name
    if flavor ∈ flavors then return flavor
    throw (.undeclaredDefault name)
  | none =>
    match flavors with
    | first :: _ => .ok first
    | [] => .error .noFlavors

/-- **Compiles declarations into a table.** -/
def compile (r : Rules) : Compilation :=
  if r.limit > labelCeiling then ⟨[], .error (.limitTooHigh r.limit)⟩
  else if r.declarations.isEmpty then ⟨[], .error .noFlavors⟩
  else
    let (draft, outcome) := r.declareAll {} r.declarations
    ⟨draft.expansions, do
      outcome
      let default ← r.defaultAmong draft.flavors
      return ⟨draft.routes, default, draft.flavors, r.ignoredSet⟩⟩

end Rules

end RunnerDispatch.Routing

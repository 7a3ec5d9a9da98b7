import RunnerDispatch.Toml.Value

/-!
# Tables in the making

A table can be given piece by piece: by a header, by headers of tables inside it, and by keys with full
stops. **Each table is given in one way only**, which is why a table remembers how it came to be.

* `Node.enter`: goes down a path to the table at its end.
* `putEntry`: puts a value under a key with the parts in front of it.
-/

namespace RunnerDispatch.Toml

/-- How a table came to be. -/
inductive Origin
  /-- Written in full, or by its own header. -/
  | closed
  /-- Implied by the header of a table inside it. -/
  | implied
  /-- Given by keys with full stops. -/
  | dotted
  deriving DecidableEq, Repr

/-- A value, a table in the making, or a list of such tables, the latest first. -/
inductive Node
  | value (v : Value)
  | table (origin : Origin) (entries : List (String × Node))
  | tables (latestFirst : List (List (String × Node)))
  deriving Inhabited

/-- Entries of a table, each name once. -/
abbrev Entries := List (String × Node)

/-- The entry under a name. -/
def lookUp (name : String) (entries : Entries) : Option Node :=
  (entries.find? (·.1 == name)).map (·.2)

/-- Replaces an entry, or adds it at the end. -/
def putNode (name : String) (node : Node) : Entries → Entries
  | [] => [(name, node)]
  | (n, old) :: rest => if n = name then (n, node) :: rest else (n, old) :: putNode name node rest

/-- Removes an entry. -/
def dropNode (name : String) (entries : Entries) : Entries := entries.filter (·.1 != name)

/-- Changes the table at the end of a path. Tables that are missing on the way come to be as `origin`
says; of a list of tables the latest is entered. A key with full stops enters no closed table. -/
def changeAt (origin : Origin) (change : Origin → Entries → Option Entries) :
    (path : List String) → Origin → Entries → Option Entries
  | [], own, entries => change own entries
  | name :: path, _, entries =>
    match lookUp name entries with
    | none => do
      let inside ← changeAt origin change path origin []
      return putNode name (.table origin inside) entries
    | some (.value _) => none
    | some (.table own inside) =>
      if origin = .dotted ∧ own = .closed then none
      else do
        let inside ← changeAt origin change path own inside
        return putNode name (.table own inside) entries
    | some (.tables []) => none
    | some (.tables (latest :: earlier)) => do
      let latest ← changeAt origin change path .closed latest
      return putNode name (.tables (latest :: earlier)) entries

/-- **Puts a value under a key.** The table it goes to must have come to be by keys with full stops if
the key has some, and otherwise not. -/
def putEntry (path : List String) (name : String) (v : Value) (entries : Entries) : Option Entries :=
  changeAt .dotted
    (fun own entries =>
      if (own = .dotted) = path.isEmpty ∨ (lookUp name entries).isSome then none
      else some (entries ++ [(name, .value v)]))
    path .closed entries

mutual

/-- The value that a node has become, in a line or not. -/
def Node.finish (inLine : Bool) : Node → Value
  | .value v => v
  | .table _ entries => .table inLine (finishEntries inLine entries)
  | .tables latestFirst => .list (finishTables inLine latestFirst).reverse

/-- The values of entries. -/
def finishEntries (inLine : Bool) : List (String × Node) → List (String × Value)
  | [] => []
  | (name, node) :: rest => (name, node.finish inLine) :: finishEntries inLine rest

/-- The values of tables. -/
def finishTables (inLine : Bool) : List (List (String × Node)) → List Value
  | [] => []
  | entries :: rest => .table inLine (finishEntries inLine entries) :: finishTables inLine rest

end

end RunnerDispatch.Toml

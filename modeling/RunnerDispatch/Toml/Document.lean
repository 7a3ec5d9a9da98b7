import RunnerDispatch.Toml.Scalar
import RunnerDispatch.Toml.Tree

/-!
# Configuration files

* `readValue`: a value in a line. Lists may go over several lines, tables may not, and **fewer than 80
  of them may be open at a time**.
* `readLines`: the headers and entries of a file.
* `Draft.add`: what each of them does to the tables in the making.
* `parse`: the table that a file gives.
-/

namespace RunnerDispatch.Toml

/-- Lists and tables that are too many to be open at a time. -/
def depthLimit : Nat := 80

/-- Reads the items of a list after its opening bracket, onto those read already, kept last first. -/
def readItems (value : Reader Value) : (fuel : Nat) → (read : List Value) → Reader (List Value)
  | 0, _, _ => none
  | fuel + 1, read, cs => do
    match ← skipSpace fuel cs with
    | ']' :: cs => return (read.reverse, cs)
    | cs =>
      let (v, cs) ← value cs
      match ← skipSpace fuel cs with
      | ',' :: cs => readItems value fuel (v :: read) cs
      | ']' :: cs => return ((v :: read).reverse, cs)
      | _ => none

/-- Reads the entries of a table in a line after its opening brace. -/
def readEntries (value : Reader Value) : (fuel : Nat) → Entries → Reader Entries
  | 0, _, _ => none
  | fuel + 1, entries, cs => do
    let ((path, name), cs) ← readKey fuel cs
    let cs ← expect '=' cs
    let (v, cs) ← value (skipBlanks cs)
    let entries ← putEntry path name v entries
    match skipBlanks cs with
    | ',' :: cs => readEntries value fuel entries cs
    | '\x7d' :: cs => return (entries, cs)
    | _ => none

/-- **Reads a value**, when so many more lists and tables may be opened. -/
def readValue : (fuel depth : Nat) → Reader Value
  | 0, _, _ => none
  | _ + 1, _, [] => none
  | fuel + 1, depth, c :: cs =>
    if c = '"' ∨ c = '\'' then (readText fuel (c :: cs)).map fun (s, cs) => (.text s, cs)
    else if c = '[' then
      match depth with
      | 0 => none
      | depth + 1 =>
        (readItems (readValue fuel depth) fuel [] cs).map fun (items, cs) => (.list items, cs)
    else if c = '\x7b' then
      match depth with
      | 0 => none
      | depth + 1 =>
        match skipBlanks cs with
        | '\x7d' :: cs => some (.table true [], cs)
        | _ =>
          (readEntries (readValue fuel depth) fuel [] cs).map fun (entries, cs) =>
            (.table true (finishEntries true entries), cs)
    else if c = 't' ∨ c = 'f' then readBool (c :: cs)
    else readNumber (c :: cs)

/-- What a line says. -/
inductive Line
  /-- The entries that follow belong to this table. -/
  | header (path : List String) (name : String)
  /-- The entries that follow belong to a new table at the end of this list. -/
  | item (path : List String) (name : String)
  | entry (path : List String) (name : String) (v : Value)

/-- Reads a line that is not empty. -/
def readLine (fuel : Nat) : Reader Line
  | '[' :: '[' :: cs => do
    let ((path, name), cs) ← readKey fuel cs
    let cs ← expectWord [']', ']'] cs
    return (.item path name, cs)
  | '[' :: cs => do
    let ((path, name), cs) ← readKey fuel cs
    let cs ← expect ']' cs
    return (.header path name, cs)
  | cs => do
    let ((path, name), cs) ← readKey fuel cs
    let cs ← expect '=' cs
    let (v, cs) ← readValue fuel (depthLimit - 1) (skipBlanks cs)
    return (.entry path name v, cs)

/-- Reads lines onto those read already, kept last first. -/
def readLines : (fuel : Nat) → (read : List Line) → List Char → Option (List Line)
  | 0, _, _ => none
  | fuel + 1, read, cs =>
    match skipBlanks cs with
    | [] => some read.reverse
    | '#' :: cs => (skipLine ('#' :: cs)).bind (readLines fuel read)
    | cs =>
      match afterBreak? cs with
      | some cs => readLines fuel read cs
      | none =>
        match readLine fuel cs with
        | none => none
        | some (line, cs) =>
          match skipLine cs with
          | some cs => readLines fuel (line :: read) cs
          | none => none

/-- Where entries go. -/
inductive Target
  | root
  | table (path : List String) (name : String)
  | item (path : List String) (name : String)

/-- A file in the making: its tables, and the one that is being given. -/
structure Draft where
  root : Entries := []
  current : Entries := []
  target : Target := .root

namespace Draft

/-- Puts the table that was being given in its place, behind the tables that were given before it. -/
def settle (d : Draft) : Option Entries :=
  match d.target with
  | .root => some d.current
  | .table path name =>
    changeAt .implied
      (fun _ entries => some (dropNode name entries ++ [(name, .table .closed d.current)]))
      path .closed d.root
  | .item path name =>
    changeAt .implied
      (fun _ entries =>
        match lookUp name entries with
        | none => some (putNode name (.tables [d.current]) entries)
        | some (.tables tables) => some (putNode name (.tables (d.current :: tables)) entries)
        | some _ => none)
      path .closed d.root

/-- The entries that tables inside have given a table before its header. -/
def implied (path : List String) (name : String) (root : Entries) : Option Entries :=
  let rec find : List String → Entries → Option Entries
    | [], entries =>
      match lookUp name entries with
      | none => some []
      | some (.table .implied inside) => some inside
      | some _ => none
    | part :: path, entries =>
      match lookUp part entries with
      | none => some []
      | some (.value _) => none
      | some (.table _ inside) => find path inside
      | some (.tables []) => none
      | some (.tables (latest :: _)) => find path latest
  find path root

/-- Adds what a line says. -/
def add (d : Draft) : Line → Option Draft
  | .entry path name v => do
    let current ← putEntry path name v d.current
    return { d with current }
  | .header path name => do
    let root ← d.settle
    let current ← implied path name root
    return { root, current, target := .table path name }
  | .item path name => do
    let root ← d.settle
    let _ ← ({ root, target := .item path name } : Draft).settle
    return { root, current := [], target := .item path name }

end Draft

/-- **The table that a file gives**, or none if the file is malformed. -/
def parse (text : String) : Option Value := do
  let cs := text.toList
  let cs := if cs.head? = some '\ufeff' then cs.tail else cs
  let lines ← readLines (cs.length + 2) [] cs
  let draft ← lines.foldlM Draft.add {}
  let root ← draft.settle
  return .table false (finishEntries false root)

end RunnerDispatch.Toml

import RunnerDispatch.Toml.Value

/-!
# Reading meanings off values

A section of a file is a table of fields by their names, or **a list of fields by their places**, of which
the last may be left out. Fields that nobody asks for are passed over.

* `Fields.of?`: the fields of a section.
* `Fields.read`: what a field means, or its default if it is not given.
-/

namespace RunnerDispatch.Toml

/-- The text that a value is. -/
def Value.text? : Value → Option String
  | .text s => some s
  | _ => none

/-- The natural number that a value is. -/
def Value.natural? : Value → Option Nat
  | .integer n => n.toNat?
  | _ => none

/-- The truth value that a value is. -/
def Value.truth? : Value → Option Bool
  | .bool b => some b
  | _ => none

/-- The items of a list, each read the same way. -/
def Value.items? {α : Type} (item : Value → Option α) : Value → Option (List α)
  | .list vs => vs.mapM item
  | _ => none

/-- **One of several words**, alone, or as the name of an entry without content. A table over several
lines may have more entries after it. -/
def Value.choice? {α : Type} (words : List (String × α)) : Value → Option α
  | .text s => words.lookup s
  | .table inLine ((name, content) :: rest) =>
    let isEmpty := match content with
      | .list [] => true
      | .table _ [] => true
      | _ => false
    if isEmpty && !(inLine && !rest.isEmpty) then words.lookup name else none
  | _ => none

/-- The fields of a section. -/
inductive Fields
  | named (entries : List (String × Value))
  | placed (items : List Value)

namespace Fields

/-- The fields of a value that may stand for a section. A date is one that gives no field. -/
def of? : Value → Option Fields
  | .table _ entries => some (.named entries)
  | .list items => some (.placed items)
  | .moment _ => some (.named [])
  | _ => none

/-- The value given to a field. -/
def find? (place : Nat) (name : String) : Fields → Option Value
  | .named entries => entries.lookup name
  | .placed items => items[place]?

/-- **What a field means**, or its default if it is not given. -/
def read {α : Type} (fields : Fields) (place : Nat) (name : String) (meaning : Value → Option α)
    (default : α) : Option α :=
  match fields.find? place name with
  | none => some default
  | some v => meaning v

end Fields

end RunnerDispatch.Toml

/-!
# Values of a configuration file

What a file in TOML says, its spelling aside. Of numbers with a fraction and of dates only the spelling
is kept, since nothing in a configuration is one.
-/

namespace RunnerDispatch.Toml

/-- A value; a table keeps its entries in order, each name once, and whether it is written in a line. -/
inductive Value
  | text (s : String)
  | integer (n : Int)
  | float (spelling : String)
  | bool (b : Bool)
  | moment (spelling : String)
  | list (items : List Value)
  | table (inLine : Bool) (entries : List (String × Value))
  deriving Inhabited

/-- Reads a part of a file from the characters that are left. -/
abbrev Reader (α : Type) := List Char → Option (α × List Char)

end RunnerDispatch.Toml

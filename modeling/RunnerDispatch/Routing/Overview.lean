import RunnerDispatch.Routing.Table

/-!
# Tables for people

* `Table.overview`: the default flavor and **the listing, one line for each entry**, with the flavors in
  one column.
-/

namespace RunnerDispatch.Routing

/-- The columns that an entry's labels take up, at least. -/
def labelColumns : Nat := 40

/-- A text with blanks after it up to a width in characters. -/
def padRight (width : Nat) (s : String) : String :=
  s ++ String.ofList (List.replicate (width - s.length) ' ')

namespace Table

/-- One entry of the listing as a line. -/
def overviewLine (entry : Key × Flavor) : String :=
  padRight labelColumns (", ".intercalate (entry.1.map (·.text))) ++ " -> " ++ entry.2.name ++ "\n"

/-- **The default flavor and the listing**, a line each. -/
def overview (t : Table) : String :=
  "default flavor: " ++ t.default.name ++ "\n" ++ String.join (t.listing.map overviewLine)

end Table

end RunnerDispatch.Routing

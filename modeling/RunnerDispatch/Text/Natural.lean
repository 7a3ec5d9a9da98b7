/-!
# Natural numbers in decimal

* `natural?`: the number of a text of digits, in front of which a plus sign may stand.
-/

namespace RunnerDispatch.Text

/-- The number that decimal digits write, with a plus sign or not. -/
def natural? (s : String) : Option Nat :=
  let digits := match s.toList with
    | '+' :: cs => cs
    | cs => cs
  if digits.isEmpty || !digits.all Char.isDigit then none
  else some (digits.foldl (fun n c => 10 * n + (c.toNat - 0x30)) 0)

end RunnerDispatch.Text

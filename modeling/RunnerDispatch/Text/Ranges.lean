/-!
# Sets of characters given by ranges

A property of characters is kept as the list of its maximal ranges of code points. `Ranges.has`
decides membership; a scan is enough, since only characters outside ASCII are looked up. Larger
sets are written as text, which `Ranges.ofText` reads.
-/

namespace RunnerDispatch.Text

/-- Code points from the first to the second, both included, range after range. -/
abbrev Ranges := List (Nat × Nat)

/-- Whether a character lies in one of the ranges. -/
def Ranges.has (ranges : Ranges) (c : Char) : Bool :=
  ranges.any fun r => r.1 ≤ c.toNat && c.toNat ≤ r.2

/-- The value of a hexadecimal digit in lower case; other characters count as zero. -/
def codePointDigit (c : Char) : Nat :=
  if c.isDigit then c.toNat - 0x30 else if 'a' ≤ c ∧ c ≤ 'f' then c.toNat - 0x61 + 10 else 0

/-- A code point in hexadecimal. -/
def codePoint (digits : String) : Nat :=
  digits.toList.foldl (fun n c => 16 * n + codePointDigit c) 0

/-- A code point, or a first and a last one with a hyphen between them. -/
def codePointRange (entry : String) : Nat × Nat :=
  match entry.splitOn "-" with
  | [first, last] => (codePoint first, codePoint last)
  | _ => (codePoint entry, codePoint entry)

/-- The entries of a table that is written as text, between blanks and line breaks. -/
def entries (s : String) : List String :=
  ((s.toList.splitOnP fun c => c == ' ' || c == '\n').filter (!·.isEmpty)).map String.ofList

/-- Reads ranges from text. -/
def Ranges.ofText (s : String) : Ranges := (entries s).map codePointRange

end RunnerDispatch.Text

import RunnerDispatch.Idna.MappingTable
import RunnerDispatch.Text.Ranges

/-!
# Mapping characters of domain names

Before a domain name is looked at, its characters are mapped: capitals to small letters, compatibility
forms to plain ones, full stops of all scripts to one. `mapChar` is **none for a character that no
domain name may hold**.
-/

namespace RunnerDispatch.Idna

open Text

/-- How the characters of a range are replaced. -/
inductive Pace
  | each
  | everyOther
  | alike
  deriving DecidableEq, Repr

/-- The replacement of the characters of a range; given is that of the first one. -/
structure Replacement where
  first : Nat
  last : Nat
  pace : Pace
  target : List Nat

/-- Reads an entry of the table with the mark after its range. -/
def replacement (pace : Pace) (range targets : String) : Replacement :=
  let (first, last) := codePointRange range
  ⟨first, last, pace, (targets.splitOn ",").map codePoint⟩

/-- Reads an entry of the table. -/
def readReplacement (entry : String) : Replacement :=
  match entry.splitOn ">" with
  | [range, targets] => replacement .each range targets
  | _ =>
    match entry.splitOn "/" with
    | [range, targets] => replacement .everyOther range targets
    | _ =>
      match entry.splitOn "=" with
      | [range, targets] => replacement .alike range targets
      | _ => ⟨0, 0, .alike, []⟩

def refused : Ranges := Ranges.ofText refusedText

def dropped : Ranges := Ranges.ofText droppedText

def replacements : List Replacement := (entries mappedText).map readReplacement

/-- Whether a code point is replaced as the range says. -/
def Replacement.covers (r : Replacement) (n : Nat) : Bool :=
  r.first ≤ n && n ≤ r.last && (r.pace != .everyOther || (n - r.first) % 2 == 0)

/-- What a code point of the range becomes. -/
def Replacement.apply (r : Replacement) (n : Nat) : List Char :=
  let distance := if r.pace = .alike then 0 else n - r.first
  r.target.map fun t => Char.ofNat (t + distance)

/-- What a character becomes, or none if no domain name may hold it. -/
def mapChar (c : Char) : Option (List Char) :=
  if c.toNat < 0x80 then some [c.toLower]
  else if dropped.has c then some []
  else if refused.has c then none
  else
    match replacements.find? (·.covers c.toNat) with
    | some r => some (r.apply c.toNat)
    | none => some [c]

/-- What a name becomes. -/
def mapName (cs : List Char) : Option (List Char) := (cs.mapM mapChar).map List.flatten

end RunnerDispatch.Idna

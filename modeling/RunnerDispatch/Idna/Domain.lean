import RunnerDispatch.Idna.Direction
import RunnerDispatch.Idna.Mapping
import RunnerDispatch.Idna.Punycode

/-!
# Domain names in ASCII

* `Idna.toAscii?`: **the ASCII form of a domain name**, or none if it has none. Characters are mapped
  and composed, labels already in ASCII form are read and checked, and labels with other characters are
  written as `xn--` and their Punycode. Labels may be empty and of any length.
-/

namespace RunnerDispatch.Idna

/-- ASCII characters that no domain name may hold. -/
def isForbidden (c : Char) : Bool :=
  c.toNat ≤ 0x20 || c.toNat == 0x7F || "%#/:<>?@[\\]^|".contains c

/-- Splits a name at its full stops. -/
def labels (cs : List Char) : List (List Char) := cs.splitOnP (· == '.')

/-- What stands in front of a label that is in ASCII form. -/
def marker : List Char := ['x', 'n', '-', '-']

/-- The label behind an ASCII form, if it is the only way to write that label. -/
def readMarked? (written : List Char) : Option (List Char) := do
  if written.getLast? == some '-' then none
  let label ← Punycode.decode? written
  if label.all (·.toNat < 0x80) then none
  let mapped ← mapName label
  if compose mapped == label then some label else none

/-- A label with all its characters. -/
def plainLabel? (label : List Char) : Option (List Char) :=
  if marker.isPrefixOf label then readMarked? (label.drop marker.length) else some label

/-- Whether a label satisfies what does not depend on its neighbours. -/
def isValidLabel (label : List Char) : Bool :=
  !startsWithMark label && joinersAllowed [] label && !label.any isForbidden

/-- A label in ASCII form. -/
def asciiLabel (label : List Char) : List Char :=
  if label.all (·.toNat < 0x80) then label else marker ++ Punycode.encode label

/-- **The ASCII form of a domain name.** -/
def toAscii? (name : List Char) : Option (List Char) := do
  let mapped ← mapName name
  let plain ← (labels (compose mapped)).mapM plainLabel?
  if !plain.all isValidLabel then none
  if plain.any isDirected && !plain.all directionAllowed then none
  return ['.'].intercalate (plain.map asciiLabel)

end RunnerDispatch.Idna

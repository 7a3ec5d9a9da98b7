import RunnerDispatch.Text.Hex

/-!
# Socket addresses

An IP address and a port, in the strict notation: four decimal bytes without zeros in front, or in
brackets eight hexadecimal groups, of which one run may be left out and the last two may be written as
four bytes, with a scope behind a percent sign.

* `SocketAddress.parse?`: **the address of a text**, if it has exactly this form.
-/

namespace RunnerDispatch.Net

/-- An address of the internet. -/
inductive Ip
  | v4 (bytes : List Nat)
  | v6 (groups : List Nat) (scope : Nat)
  deriving DecidableEq, Repr

/-- Where a service listens. -/
structure SocketAddress where
  ip : Ip
  port : Nat
  deriving DecidableEq, Repr

namespace SocketAddress

/-- Reads from the characters that are left. -/
abbrev Reader (α : Type) := List Char → Option (α × List Char)

/-- Passes over a character. -/
def expect (c : Char) : List Char → Option (List Char)
  | [] => none
  | d :: cs => if d = c then some cs else none

/-- The digits in front. -/
def digitsOf (base : Nat) (cs : List Char) : List Char :=
  cs.takeWhile fun c => (Text.Hex.value? c).any (· < base)

/-- Reads a number of digits in a base up to a greatest value. -/
def readNumber (base limit : Nat) : Reader Nat := fun cs =>
  let digits := digitsOf base cs
  let n := digits.foldl (fun n c => min (limit + 1) (base * n + (Text.Hex.value? c).getD 0)) 0
  if digits.isEmpty ∨ n > limit then none else some (n, cs.drop digits.length)

/-- Reads a byte in decimal without zeros in front. -/
def readByte : Reader Nat := fun cs =>
  let digits := digitsOf 10 cs
  if digits.length > 3 ∨ (digits.length > 1 ∧ digits.head? = some '0') then none
  else readNumber 10 255 cs

/-- Reads a group of up to four hexadecimal digits. -/
def readGroup : Reader Nat := fun cs =>
  if (digitsOf 16 cs).length > 4 then none else readNumber 16 0xFFFF cs

/-- Reads four bytes. -/
def readV4 : Reader (List Nat) := fun cs => do
  let (a, cs) ← readByte cs
  let cs ← expect '.' cs
  let (b, cs) ← readByte cs
  let cs ← expect '.' cs
  let (c, cs) ← readByte cs
  let cs ← expect '.' cs
  let (d, cs) ← readByte cs
  return ([a, b, c, d], cs)

/-- Passes over the colon in front of a group that is not the first. -/
def separator (first : Bool) (cs : List Char) : Option (List Char) :=
  if first then some cs else expect ':' cs

/-- Reads up to so many groups. Says whether four bytes stood for the last two. -/
def readGroups : (room : Nat) → (read : List Nat) → List Char → List Nat × Bool × List Char
  | 0, read, cs => (read, false, cs)
  | room + 1, read, cs =>
    let bytes := if room = 0 then none else (separator read.isEmpty cs).bind readV4
    match bytes with
    | some ([a, b, c, d], cs) => (read ++ [a * 256 + b, c * 256 + d], true, cs)
    | _ =>
      match (separator read.isEmpty cs).bind readGroup with
      | some (g, cs) => readGroups room (read ++ [g]) cs
      | none => (read, false, cs)

/-- Reads the groups of an address, of which one run may be left out. -/
def readV6 : Reader (List Nat) := fun cs => do
  let (front, bytes, cs) := readGroups 8 [] cs
  if front.length = 8 then return (front, cs)
  if bytes then none
  let cs ← expect ':' cs
  let cs ← expect ':' cs
  let (back, _, cs) := readGroups (7 - front.length) [] cs
  return (front ++ List.replicate (8 - front.length - back.length) 0 ++ back, cs)

/-- Reads a scope, if there is one. -/
def readScope (cs : List Char) : Nat × List Char :=
  match (expect '%' cs).bind (readNumber 10 (Nat.pow 2 32 - 1)) with
  | some r => r
  | none => (0, cs)

/-- Reads a port that is the rest of the text. -/
def readPort (cs : List Char) : Option Nat := do
  let cs ← expect ':' cs
  match ← readNumber 10 65535 cs with
  | (port, []) => return port
  | _ => none

/-- **The address of a text.** -/
def parse? (s : String) : Option SocketAddress :=
  match s.toList with
  | '[' :: cs => do
    let (groups, cs) ← readV6 cs
    let (scope, cs) := readScope cs
    let cs ← expect ']' cs
    return ⟨.v6 groups scope, ← readPort cs⟩
  | cs => do
    let (bytes, cs) ← readV4 cs
    return ⟨.v4 bytes, ← readPort cs⟩

end SocketAddress

end RunnerDispatch.Net

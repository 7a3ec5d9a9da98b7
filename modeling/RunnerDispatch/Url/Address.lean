import RunnerDispatch.Text.Hex

/-!
# Addresses in URLs

* `Ipv4.read?`: an address of up to four numbers in decimal, octal or hexadecimal, of which the last
  fills the bytes that are left.
* `Ipv4.looksNumeric`: **a host whose last part is a number has to be such an address**.
* `Ipv6.read?`: eight groups, of which one run may be left out and the last two may be written as an
  IPv4 address.
* `Ipv4.text`, `Ipv6.text`: the one way in which an address is written.
-/

namespace RunnerDispatch.Url

namespace Ipv4

/-- The value of digits in a base, if they are digits of that base. -/
def digitsValue? (base : Nat) (digits : List Char) : Option Nat :=
  digits.foldlM (fun n c => do
    let d ← Text.Hex.value? c
    if d < base then some (n * base + d) else none) 0

/-- The number that a part of an address writes. -/
def number? (part : List Char) : Option Nat :=
  match part with
  | [] => none
  | '0' :: 'x' :: digits => digitsValue? 16 digits
  | '0' :: 'X' :: digits => digitsValue? 16 digits
  | '0' :: d :: digits => digitsValue? 8 (d :: digits)
  | digits => digitsValue? 10 digits

/-- The parts between the full stops; an empty part at the end does not count. -/
def parts (host : List Char) : List (List Char) :=
  let all := host.splitOnP (· == '.')
  if all.getLast? = some [] then all.dropLast else all

/-- Whether the last part of a host is a number. -/
def looksNumeric (host : List Char) : Bool :=
  match (parts host).getLast? with
  | none => false
  | some last => (!last.isEmpty && last.all Char.isDigit) || (number? last).isSome

/-- The address whose parts are these numbers. -/
def ofNumbers? (numbers : List Nat) : Option Nat :=
  match numbers.reverse with
  | [] => none
  | last :: front =>
    if front.length > 3 ∨ last ≥ Nat.pow 256 (4 - front.length) ∨ front.any (· > 255) then none
    else some (front.reverse.zipIdx.foldl (fun sum p => sum + p.1 * Nat.pow 256 (3 - p.2)) last)

/-- **The address that a host writes.** -/
def read? (host : List Char) : Option Nat := do
  let numbers ← (parts host).mapM number?
  ofNumbers? numbers

/-- The four bytes in decimal. -/
def text (address : Nat) : String :=
  ".".intercalate ([3, 2, 1, 0].map fun i => toString (address / Nat.pow 256 i % 256))

end Ipv4

namespace Ipv6

/-- Reads up to four hexadecimal digits. -/
def takeGroup (cs : List Char) : Nat × List Char × Nat :=
  let digits := (cs.take 4).takeWhile fun c => (Text.Hex.value? c).isSome
  let value := digits.foldl (fun n c => 16 * n + (Text.Hex.value? c).getD 0) 0
  (value, cs.drop digits.length, digits.length)

/-- Reads a number up to 255 without zeros in front. -/
def takeByte? (cs : List Char) : Option (Nat × List Char) :=
  let digits := cs.takeWhile Char.isDigit
  let value := digits.foldl (fun n c => 10 * n + (c.toNat - 0x30)) 0
  if digits.isEmpty ∨ value > 255 ∨ (digits.length > 1 ∧ digits.head? = some '0') then none
  else some (value, cs.drop digits.length)

/-- Reads so many more bytes of an embedded address, each after a full stop. -/
def takeBytes? : (count : Nat) → List Char → Option (List Nat)
  | 0, [] => some []
  | 0, _ :: _ => none
  | count + 1, '.' :: cs => do
    let (b, cs) ← takeByte? cs
    let bs ← takeBytes? count cs
    return b :: bs
  | _ + 1, _ => none

/-- Reads an embedded address as two groups. -/
def embedded? (cs : List Char) : Option (List Nat) := do
  let (a, cs) ← takeByte? cs
  match ← takeBytes? 3 cs with
  | [b, c, d] => return [a * 256 + b, c * 256 + d]
  | _ => none

/-- Reads groups. Kept are the groups so far and where the run that is left out begins; the run counts
as one group until its length is known. -/
def groups? : (tries : Nat) → (read : List Nat) → (gap : Option Nat) → List Char →
    Option (List Nat × Option Nat)
  | 0, _, _, _ => none
  | _ + 1, read, gap, [] => some (read, gap)
  | tries + 1, read, gap, c :: cs =>
    if read.length ≥ 8 then none
    else if c = ':' then
      if gap.isSome then none else groups? tries (read ++ [0]) (some (read.length + 1)) cs
    else
      let (value, rest, count) := takeGroup (c :: cs)
      match rest with
      | [] => groups? tries (read ++ [value]) gap []
      | '.' :: _ =>
        if count = 0 ∨ read.length > 6 then none
        else (embedded? (c :: cs)).map fun tail => (read ++ tail, gap)
      | ':' :: rest => if rest.isEmpty then none else groups? tries (read ++ [value]) gap rest
      | _ :: _ => none

/-- **The groups of an address.** -/
def read? (cs : List Char) : Option (List Nat) := do
  if cs.length < 2 then none
  let (groups, gap) ← match cs with
    | ':' :: ':' :: rest => groups? 10 [0] (some 1) rest
    | ':' :: _ => none
    | _ => groups? 10 [] none cs
  match gap with
  | some gap =>
    return groups.take gap ++ List.replicate (8 - groups.length) 0 ++ groups.drop gap
  | none => if groups.length = 8 then return groups else none

/-- Length of the run of zeros in front. -/
def zeroRun (groups : List Nat) : Nat := (groups.takeWhile (· == 0)).length

/-- The first of the longest runs of zeros, as its place and its length. -/
def longestRun (groups : List Nat) : Nat × Nat :=
  (List.range groups.length).foldl
    (fun best i =>
      let n := zeroRun (groups.drop i)
      if n > best.2 then (i, n) else best)
    (0, 0)

/-- The groups in hexadecimal; the longest run of at least two zeros is left out. -/
def text (groups : List Nat) : String :=
  let written (gs : List Nat) := ":".intercalate (gs.map Text.Hex.ofNat)
  let (start, length) := longestRun groups
  if length < 2 then written groups
  else written (groups.take start) ++ "::" ++ written (groups.drop (start + length))

end Ipv6

end RunnerDispatch.Url

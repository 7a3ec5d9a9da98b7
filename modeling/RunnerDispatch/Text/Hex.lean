/-!
# Hexadecimal digits

* `Hex.digit`: one digit in lower case.
* `Hex.ofNat`: a number in the fewest digits.
* `Hex.ofBytes`, `Hex.toBytes?`: bytes as pairs of digits; `toBytes?` reads either letter case.
-/

namespace RunnerDispatch.Text.Hex

/-- The digit of a number below 16. -/
def digit (n : Nat) : Char :=
  if n < 10 then Char.ofNat (0x30 + n) else Char.ofNat (0x61 + (n - 10))

/-- The digit of a number below 16, in capitals. -/
def capital (n : Nat) : Char :=
  if n < 10 then Char.ofNat (0x30 + n) else Char.ofNat (0x41 + (n - 10))

/-- The value of a digit in either case. -/
def value? (c : Char) : Option Nat :=
  if '0' ≤ c ∧ c ≤ '9' then some (c.toNat - 0x30)
  else if 'a' ≤ c ∧ c ≤ 'f' then some (c.toNat - 0x61 + 10)
  else if 'A' ≤ c ∧ c ≤ 'F' then some (c.toNat - 0x41 + 10)
  else none

/-- A number in the fewest digits. -/
def ofNat (n : Nat) : String := String.ofList ((Nat.toDigits 16 n))

/-- The two digits of a byte. -/
def pair (b : UInt8) : List Char := [digit (b.toNat / 16), digit (b.toNat % 16)]

/-- Two digits for each byte, in lower case. -/
def ofBytes (bytes : List UInt8) : List Char := bytes.flatMap pair

/-- The bytes that pairs of digits stand for. -/
def toBytes? : List Char → Option (List UInt8)
  | [] => some []
  | [_] => none
  | c :: d :: rest => do
    let high ← value? c
    let low ← value? d
    let bytes ← toBytes? rest
    return UInt8.ofNat (16 * high + low) :: bytes

end RunnerDispatch.Text.Hex

import RunnerDispatch.Json.Token

/-!
# Numbers of JSON

A number is read digit by digit into a significand of 64 bits and a power of ten. Digits that no
longer fit are dropped, and a number with a fraction, an exponent or too many digits becomes a
floating-point number: **the significand is scaled by one power of ten**, so that the last bit may
differ from the nearest one.

* `readNumber`: a number after its sign.
* `skipNumber`: a number after its sign, checked only for its form.
-/

namespace RunnerDispatch.Json

open Text

/-- The greatest significand. -/
def maxSignificand : Nat := Nat.pow 2 64 - 1

/-- The greatest exponent that is counted exactly. -/
def maxExponent : Int := Nat.pow 2 31 - 1

/-- The next byte, if there is one. -/
def peek : Bytes → Option UInt8
  | [] => none
  | b :: _ => some b

/-- Whether a digit comes next. -/
def digitNext (s : Bytes) : Bool := (peek s).any Ascii.isDigit

/-- Whether an exponent comes next. -/
def exponentNext (s : Bytes) : Bool :=
  peek s == some (Ascii.byte 'e') || peek s == some (Ascii.byte 'E')

/-- Drops the digits in front. -/
def skipDigits (s : Bytes) : Bytes := s.dropWhile Ascii.isDigit

/-- A floating-point number with its sign. -/
def signed (positive : Bool) (x : Float) : Float := if positive then x else -x

/-- Ten to a power up to 308. -/
def tenTo (n : Nat) : Float := Float.ofScientific 1 false n

/-- Scales a number by a power of ten; nothing is left below the least number, and **a number beyond
the greatest is refused**. -/
def scale : (steps : Nat) → Float → Int → Option Float
  | 0, x, _ => some x
  | steps + 1, x, e =>
    if e.natAbs ≤ 308 then
      if 0 ≤ e then
        let y := x * tenTo e.natAbs
        if y.isInf then none else some y
      else some (x / tenTo e.natAbs)
    else if x == 0 then some x
    else if 0 ≤ e then none
    else scale steps (x / tenTo 308) (e + 308)

/-- The number with this significand and exponent. -/
def scaled (positive : Bool) (significand : Nat) (exponent : Int) : Reader Float := fun s =>
  match scale 8 (Float.ofNat significand) exponent with
  | some x => .ok (signed positive x, s)
  | none => .error (.before .numberOutOfRange s)

/-- The digits in front up to the first one that an exponent has no room for. -/
def exponentDigits : (exponent : Int) → Bytes → Option Int × Bytes
  | e, [] => (some e, [])
  | e, b :: s =>
    if Ascii.isDigit b then
      let e' := e * 10 + Ascii.digitValue b
      if e' > maxExponent then (none, s) else exponentDigits e' s
    else (some e, b :: s)

/-- Reads an exponent after its letter. -/
def readExponent (positive : Bool) (significand : Nat) (start : Int) : Reader Float := fun s =>
  let (up, s) := match s with
    | Ascii.plus :: s => (true, s)
    | Ascii.minus :: s => (false, s)
    | s => (true, s)
  match s with
  | [] => .error (.before .endInValue [])
  | b :: s =>
    if ¬ Ascii.isDigit b then .error (.before .invalidNumber s)
    else
      match exponentDigits (Ascii.digitValue b) s with
      | (some e, s) => scaled positive significand (if up then start + e else start - e) s
      | (none, s) =>
        if significand ≠ 0 ∧ up then .error (.before .numberOutOfRange s)
        else .ok (signed positive 0, skipDigits s)

/-- Reads an exponent if one follows. -/
def finishFloat (positive : Bool) (significand : Nat) (exponent : Int) : Reader Float := fun s =>
  if exponentNext s then readExponent positive significand exponent s.tail
  else scaled positive significand exponent s

/-- Reads the digits of a fraction, as far as the significand has room for them. -/
def fractionDigits : (significand : Nat) → (exponent : Int) → Bytes → Nat × Int × Bytes
  | m, e, [] => (m, e, [])
  | m, e, b :: s =>
    if Ascii.isDigit b then
      let m' := m * 10 + Ascii.digitValue b
      if m' > maxSignificand then (m, e, skipDigits s) else fractionDigits m' (e - 1) s
    else (m, e, b :: s)

/-- Reads a fraction after its point. -/
def readFraction (positive : Bool) (significand : Nat) (exponent : Int) : Reader Float := fun s =>
  if ¬ digitNext s then
    .error (.onNext (if s.isEmpty then .endInValue else .invalidNumber) s)
  else
    let (m, e, s) := fractionDigits significand exponent s
    finishFloat positive m e s

/-- Reads the digits that a significand has no room for. -/
def readLong (positive : Bool) (significand : Nat) : (exponent : Int) → Reader Float
  | e, [] => scaled positive significand e []
  | e, b :: s =>
    if Ascii.isDigit b then readLong positive significand (e + 1) s
    else if b = Ascii.dot then readFraction positive significand e s
    else finishFloat positive significand e (b :: s)

/-- The number without fraction and exponent. -/
def wholeNumber (positive : Bool) (n : Nat) : Value :=
  if positive then .integer n
  else if n = 0 ∨ n > Nat.pow 2 63 then .float (-(Float.ofNat n))
  else .integer (-(n : Int))

/-- A floating-point number as a value. -/
def asFloat (r : Except Fault (Float × Bytes)) : Except Fault (Value × Bytes) :=
  r.map fun (x, s) => (.float x, s)

/-- Reads what follows the digits of a whole number. -/
def finishNumber (positive : Bool) (n : Nat) : Reader Value := fun s =>
  if peek s == some Ascii.dot then asFloat (readFraction positive n 0 s.tail)
  else if exponentNext s then asFloat (readExponent positive n 0 s.tail)
  else .ok (wholeNumber positive n, s)

/-- Reads the digits of a whole number after the first. -/
def readDigits (positive : Bool) : (significand : Nat) → Reader Value
  | n, [] => .ok (wholeNumber positive n, [])
  | n, b :: s =>
    if Ascii.isDigit b then
      let n' := n * 10 + Ascii.digitValue b
      if n' > maxSignificand then asFloat (readLong positive n 0 (b :: s))
      else readDigits positive n' s
    else finishNumber positive n (b :: s)

/-- **Reads a number** after its sign. A zero in front stands alone. -/
def readNumber (positive : Bool) : Reader Value
  | [] => .error (.before .endInValue [])
  | b :: s =>
    if ¬ Ascii.isDigit b then .error (.before .invalidNumber s)
    else if Ascii.digitValue b = 0 then
      if digitNext s then .error (.onNext .invalidNumber s) else finishNumber positive 0 s
    else readDigits positive (Ascii.digitValue b) s

/-- Passes over an exponent after its letter. -/
def skipExponent (s : Bytes) : Except Fault Bytes :=
  let s := match s with
    | Ascii.plus :: s => s
    | Ascii.minus :: s => s
    | s => s
  match s with
  | [] => .error (.before .invalidNumber [])
  | b :: s =>
    if Ascii.isDigit b then .ok (skipDigits s) else .error (.before .invalidNumber s)

/-- Passes over a fraction after its point. -/
def skipFraction (s : Bytes) : Except Fault Bytes :=
  if ¬ digitNext s then .error (.onNext .invalidNumber s)
  else
    let s := skipDigits s
    if exponentNext s then skipExponent s.tail else .ok s

/-- **Passes over a number** after its sign. -/
def skipNumber : Bytes → Except Fault Bytes
  | [] => .error (.before .invalidNumber [])
  | b :: s =>
    if ¬ Ascii.isDigit b then .error (.before .invalidNumber s)
    else if Ascii.digitValue b = 0 ∧ digitNext s then .error (.onNext .invalidNumber s)
    else
      let s := if Ascii.digitValue b = 0 then s else skipDigits s
      if peek s == some Ascii.dot then skipFraction s.tail
      else if exponentNext s then skipExponent s.tail
      else .ok s

end RunnerDispatch.Json

import RunnerDispatch.Toml.Text

/-!
# Numbers, dates and truth values

* `readInteger`: a whole number of 64 bits, in base ten with a sign or in base 16, 8 or 2 without.
  **Underscores stand between digits only**, and no number in base ten starts with a zero.
* `readFloat`: a number with a fraction or an exponent. One beyond the greatest is refused unless it is
  negative.
* `readMoment`: a date, a time, or both with an offset; the date has to exist.
-/

namespace RunnerDispatch.Toml

/-- Reads digits, between which underscores may stand, onto those read already, last first. -/
def digitsOnto (isDigit : Char → Bool) (read : List Char) : List Char → Option (List Char × List Char)
  | [] => some (read.reverse, [])
  | ['_'] => none
  | '_' :: c :: cs => if isDigit c then digitsOnto isDigit (c :: read) cs else none
  | c :: cs => if isDigit c then digitsOnto isDigit (c :: read) cs else some (read.reverse, c :: cs)

/-- Reads at least one digit. -/
def readDigits (isDigit : Char → Bool) : Reader (List Char)
  | c :: cs => if isDigit c then digitsOnto isDigit [c] cs else none
  | [] => none

/-- The number that digits write. -/
def valueOf (base : Nat) (digits : List Char) : Nat :=
  digits.foldl (fun n c => base * n + (Text.Hex.value? c).getD 0) 0

/-- Whether a character is a digit of a base. -/
def isDigitOf (base : Nat) (c : Char) : Bool := (Text.Hex.value? c).any (· < base)

/-- Reads a number without sign in a base, behind its mark. -/
def readBased (base : Nat) : Reader Value := fun cs => do
  let (digits, cs) ← readDigits (isDigitOf base) cs
  let n := valueOf base digits
  if n < Nat.pow 2 63 then some (.integer n, cs) else none

/-- Reads the sign of a number. -/
def readSign : List Char → Bool × List Char
  | '+' :: cs => (false, cs)
  | '-' :: cs => (true, cs)
  | cs => (false, cs)

/-- Reads the digits of a whole number in base ten. A zero in front stands alone. -/
def readWhole : Reader (List Char)
  | '0' :: cs => some (['0'], cs)
  | cs => readDigits Char.isDigit cs

/-- **Reads a whole number.** -/
def readInteger : Reader Value
  | '0' :: 'x' :: cs => readBased 16 cs
  | '0' :: 'o' :: cs => readBased 8 cs
  | '0' :: 'b' :: cs => readBased 2 cs
  | cs => do
    let (negative, cs) := readSign cs
    let (digits, cs) ← readWhole cs
    let n := valueOf 10 digits
    if negative then
      if n ≤ Nat.pow 2 63 then some (.integer (-(n : Int)), cs) else none
    else if n < Nat.pow 2 63 then some (.integer n, cs) else none

/-- Whether a decimal rounds to more than the greatest floating-point number. -/
def isBeyond (digits : Nat) (exponent : Int) : Bool :=
  let size : Int := (Nat.toDigits 10 digits).length + exponent
  if digits = 0 ∨ size < 300 then false
  else if size > 320 then true
  else digits * Nat.pow 10 exponent.toNat ≥ (Nat.pow 2 1024 - Nat.pow 2 970) * Nat.pow 10 (-exponent).toNat

/-- Reads a fraction, if there is one. -/
def readFraction : Reader (List Char)
  | '.' :: cs => readDigits Char.isDigit cs
  | cs => some ([], cs)

/-- Reads an exponent, if there is one. -/
def readExponent (cs : List Char) : Option (Int × List Char) :=
  let read (cs : List Char) : Option (Int × List Char) := do
    let (negative, cs) := readSign cs
    let (digits, cs) ← readDigits Char.isDigit cs
    let n : Int := valueOf 10 digits
    return (if negative then -n else n, cs)
  match cs with
  | 'e' :: cs => read cs
  | 'E' :: cs => read cs
  | cs => some (0, cs)

/-- **Reads a number with a fraction or an exponent.** -/
def readFloat : Reader Value := fun cs => do
  let (negative, body) := readSign cs
  let spelled (rest : List Char) : Value :=
    .float (String.ofList (cs.take (cs.length - rest.length)))
  match body with
  | 'i' :: 'n' :: 'f' :: rest => return (spelled rest, rest)
  | 'n' :: 'a' :: 'n' :: rest => return (spelled rest, rest)
  | _ =>
    let (whole, rest) ← readWhole body
    match rest with
    | '.' :: _ | 'e' :: _ | 'E' :: _ =>
      let (fraction, rest) ← readFraction rest
      let (exponent, rest) ← readExponent rest
      if !negative && isBeyond (valueOf 10 (whole ++ fraction)) (exponent - fraction.length) then
        none
      return (spelled rest, rest)
    | _ => none

/-- Reads a number of exactly so many digits. -/
def readFixed (count : Nat) (cs : List Char) : Option (Nat × List Char) :=
  let digits := cs.take count
  if digits.length = count ∧ digits.all Char.isDigit then
    some (valueOf 10 digits, cs.drop count)
  else none

/-- Reads a number of two digits between two bounds. -/
def readBetween (low high : Nat) : Reader Nat := fun cs => do
  let (n, cs) ← readFixed 2 cs
  if low ≤ n ∧ n ≤ high then some (n, cs) else none

/-- Passes over a character. -/
def expect (c : Char) : List Char → Option (List Char)
  | [] => none
  | d :: cs => if d = c then some cs else none

/-- How many days a month has. -/
def daysIn (year month : Nat) : Nat :=
  if month = 2 then
    if year % 4 = 0 ∧ (year % 100 ≠ 0 ∨ year % 400 = 0) then 29 else 28
  else if month = 4 ∨ month = 6 ∨ month = 9 ∨ month = 11 then 30
  else 31

/-- Passes over a date. -/
def skipDate (cs : List Char) : Option (List Char) := do
  let (year, cs) ← readFixed 4 cs
  let cs ← expect '-' cs
  let (month, cs) ← readBetween 1 12 cs
  let cs ← expect '-' cs
  let (_, cs) ← readBetween 1 (daysIn year month) cs
  return cs

/-- Passes over the fraction of a second, if there is one. -/
def skipSecondFraction : List Char → List Char
  | '.' :: c :: cs => if c.isDigit then cs.dropWhile Char.isDigit else '.' :: c :: cs
  | cs => cs

/-- Passes over a time. -/
def skipTime (cs : List Char) : Option (List Char) := do
  let (_, cs) ← readBetween 0 23 cs
  let cs ← expect ':' cs
  let (_, cs) ← readBetween 0 59 cs
  let cs ← expect ':' cs
  let (_, cs) ← readBetween 0 60 cs
  return skipSecondFraction cs

/-- Passes over an offset, if there is one. -/
def skipOffset (cs : List Char) : Option (List Char) :=
  match cs with
  | c :: rest =>
    if c = 'Z' ∨ c = 'z' then some rest
    else if c = '+' ∨ c = '-' then do
      let (_, cs) ← readBetween 0 23 rest
      let cs ← expect ':' cs
      let (_, cs) ← readBetween 0 59 cs
      return cs
    else some cs
  | [] => some []

/-- Whether so many digits and then this character are in front. -/
def startsWithDigits (count : Nat) (c : Char) (cs : List Char) : Bool :=
  (cs.take count).length == count && (cs.take count).all Char.isDigit &&
    (cs.drop count).head? == some c

/-- Passes over a date with the time that may follow it. A blank is no separator unless a time
follows. -/
def skipDateAndTime (cs : List Char) : Option (List Char) := do
  let cs ← skipDate cs
  match cs with
  | c :: rest =>
    if (c = 'T' ∨ c = 't' ∨ c = ' ') ∧ startsWithDigits 2 ':' rest then
      skipOffset (← skipTime rest)
    else return cs
  | [] => return []

/-- **Reads a date, a time or both.** -/
def readMoment : Reader Value := fun cs => do
  let rest ← if startsWithDigits 2 ':' cs then skipTime cs else skipDateAndTime cs
  return (.moment (String.ofList (cs.take (cs.length - rest.length))), rest)

/-- Whether a date or a time is in front. -/
def momentAhead (cs : List Char) : Bool := startsWithDigits 4 '-' cs || startsWithDigits 2 ':' cs

/-- Reads a number, a date or a time. -/
def readNumber : Reader Value := fun cs =>
  if momentAhead cs then readMoment cs
  else
    match readFloat cs with
    | some r => some r
    | none => readInteger cs

/-- Passes over a word. -/
def expectWord (word : List Char) (cs : List Char) : Option (List Char) :=
  if word.isPrefixOf cs then some (cs.drop word.length) else none

/-- Reads `true` or `false`. -/
def readBool : Reader Value := fun cs =>
  match expectWord ['t', 'r', 'u', 'e'] cs, expectWord ['f', 'a', 'l', 's', 'e'] cs with
  | some cs, _ => some (.bool true, cs)
  | none, some cs => some (.bool false, cs)
  | none, none => none

end RunnerDispatch.Toml

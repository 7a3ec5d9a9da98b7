/-!
# The shortest decimal of a binary fraction

A finite positive floating-point number is `m * 2 ^ q`. Of all decimals that round to it, those with
the fewest digits are kept, and of these the nearest.

* `Binary.ofFloat`: the fraction of a number.
* `Binary.rounds`: **whether a decimal rounds to the fraction**, the ends of the interval included when
  `m` is even.
* `Binary.shortest`: the digits and the exponent that are chosen.
-/

namespace RunnerDispatch

/-- The decimal `digits * 10 ^ exponent`. -/
structure Decimal where
  digits : Nat
  exponent : Int
  deriving DecidableEq, Repr

namespace Decimal

/-- The positive fraction `m * 2 ^ q`. -/
structure Binary where
  m : Nat
  q : Int
  deriving DecidableEq, Repr

namespace Binary

/-- The magnitude of a finite floating-point number. -/
def ofFloat (f : Float) : Binary :=
  let bits := f.toBits.toNat
  let fraction : Nat := bits % Nat.pow 2 52
  let exponent : Nat := bits / Nat.pow 2 52 % Nat.pow 2 11
  if exponent = 0 then ⟨fraction, -1074⟩ else ⟨fraction + Nat.pow 2 52, (exponent : Int) - 1075⟩

/-- The numerator and denominator that `m * 2 ^ q` and `d * 10 ^ e` share: four times the fraction is
`4 * m * up`, and the decimal is `d * down`. -/
def scales (b : Binary) (e : Int) : Nat × Nat :=
  (Nat.pow 2 b.q.toNat * Nat.pow 10 (-e).toNat, 4 * Nat.pow 2 (-b.q).toNat * Nat.pow 10 e.toNat)

/-- Whether the decimal `d * 10 ^ e` rounds to the fraction. -/
def rounds (b : Binary) (e : Int) (d : Nat) : Bool :=
  let (up, down) := b.scales e
  let below := if b.m = Nat.pow 2 52 ∧ b.q > -1074 then 1 else 2
  let low := (4 * b.m - below) * up
  let high := (4 * b.m + 2) * up
  let x := d * down
  if b.m % 2 = 0 then low ≤ x && x ≤ high else low < x && x < high

/-- The nearer of a fraction's two neighbours on the grid `10 ^ e` that rounds to it. -/
def onGrid (b : Binary) (e : Int) : Option Nat :=
  let (up, down) := b.scales e
  let x := 4 * b.m * up
  let d := x / down
  let nearer := if 2 * (x - d * down) < down then d
    else if 2 * (x - d * down) > down then d + 1
    else if d % 2 = 0 then d else d + 1
  let farther := if nearer = d then d + 1 else d
  if b.rounds e nearer then some nearer
  else if b.rounds e farther then some farther
  else none

/-- The greatest `e` with `10 ^ e` at most the fraction, searched from an estimate that is at most
two too high. -/
def magnitude (b : Binary) : Int :=
  let estimate : Int := ((b.m.log2 : Int) + b.q) * 30103 / 100000 + 1
  let reaches (e : Int) : Bool := let (up, down) := b.scales e; down ≤ 4 * b.m * up
  if reaches estimate then estimate
  else if reaches (estimate - 1) then estimate - 1
  else estimate - 2

/-- Looks for a decimal on finer and finer grids. -/
def search (b : Binary) : (tries : Nat) → (e : Int) → Decimal
  | 0, e => ⟨0, e⟩
  | tries + 1, e =>
    match b.onGrid e with
    | some d => ⟨d, e⟩
    | none => b.search tries (e - 1)

/-- Drops the zeros at the end of a decimal. -/
def trim : (tries : Nat) → Decimal → Decimal
  | 0, d => d
  | tries + 1, d =>
    if d.digits ≠ 0 ∧ d.digits % 10 = 0 then trim tries ⟨d.digits / 10, d.exponent + 1⟩ else d

/-- **The shortest decimal that rounds to the fraction.** -/
def shortest (b : Binary) : Decimal :=
  if b.m = 0 then ⟨0, 0⟩ else trim 20 (b.search 18 b.magnitude)

end Binary

end Decimal

end RunnerDispatch

/-!
# Punycode

A label with characters outside ASCII is written in ASCII: first its ASCII characters, then the places
of the others as differences, in digits of a base whose thresholds adapt to the differences so far.

* `Punycode.encode`: the written form of a label.
* `Punycode.decode?`: the label of a written form, or none.
-/

namespace RunnerDispatch.Idna.Punycode

/-- The character of a digit: letters, then numerals. -/
def digitChar (d : Nat) : Char :=
  if d < 26 then Char.ofNat (0x61 + d) else Char.ofNat (0x30 + (d - 26))

/-- The value of a digit in either case. -/
def digitValue? (c : Char) : Option Nat :=
  if 'a' ≤ c ∧ c ≤ 'z' then some (c.toNat - 0x61)
  else if 'A' ≤ c ∧ c ≤ 'Z' then some (c.toNat - 0x41)
  else if '0' ≤ c ∧ c ≤ '9' then some (c.toNat - 0x30 + 26)
  else none

/-- The threshold of the digit at a position that is a multiple of 36. -/
def threshold (position bias : Nat) : Nat :=
  if position ≤ bias + 1 then 1 else if position ≥ bias + 26 then 26 else position - bias

/-- Divides a difference until it is small, and counts the divisions. -/
def shrink : (tries : Nat) → (delta count : Nat) → Nat × Nat
  | 0, delta, count => (delta, count)
  | tries + 1, delta, count =>
    if delta > 455 then shrink tries (delta / 35) (count + 1) else (delta, count)

/-- The bias after a difference. -/
def adapt (delta points : Nat) (first : Bool) : Nat :=
  let delta := if first then delta / 700 else delta / 2
  let (delta, count) := shrink 32 (delta + delta / points) 0
  36 * count + 36 * delta / (delta + 38)

/-- The digits of a difference. -/
def digits (bias : Nat) : (tries : Nat) → (position q : Nat) → List Char
  | 0, _, _ => []
  | tries + 1, position, q =>
    let t := threshold position bias
    if q < t then [digitChar q]
    else digitChar (t + (q - t) % (36 - t)) :: digits bias tries (position + 36) ((q - t) / (36 - t))

/-- What encoding has come to. -/
structure Encoding where
  delta : Nat
  bias : Nat
  handled : Nat
  first : Bool
  /-- Digits so far, last first. -/
  written : List Char

/-- Goes over one character of the label while the code point `m` is written. -/
def Encoding.visit (m : Nat) (e : Encoding) (c : Nat) : Encoding :=
  if c < m then { e with delta := e.delta + 1 }
  else if c = m then
    { delta := 0, bias := adapt e.delta (e.handled + 1) e.first, handled := e.handled + 1,
      first := false, written := (digits e.bias 64 36 e.delta).reverse ++ e.written }
  else e

/-- Writes the places of each code point, from the least to the greatest. -/
def writePoints (label : List Nat) : (next : Nat) → Encoding → List Nat → Encoding
  | _, e, [] => e
  | next, e, m :: ms =>
    let e := { e with delta := e.delta + (m - next) * (e.handled + 1) }
    let e := label.foldl (Encoding.visit m) e
    writePoints label (m + 1) { e with delta := e.delta + 1 } ms

/-- **The written form of a label.** -/
def encode (label : List Char) : List Char :=
  let points := label.map Char.toNat
  let basic := label.filter (·.toNat < 0x80)
  let others := ((points.filter (0x80 ≤ ·)).mergeSort (· ≤ ·)).eraseReps
  let start : Encoding := ⟨0, 72, basic.length, true, []⟩
  basic ++ (if basic.isEmpty then [] else ['-']) ++
    (writePoints points 0x80 start others).written.reverse

/-- Puts an element at an index. -/
def insertAt (i n : Nat) (ns : List Nat) : List Nat := ns.take i ++ n :: ns.drop i

/-- Reads digits. Kept are the code points so far, the next code point, the place, and for the
difference that is being read its start, its weight and its position. -/
def decodeFrom (points : List Nat) (next place bias start weight position : Nat) :
    List Char → Option (List Nat)
  | [] => if position = 36 then some points else none
  | c :: cs => do
    let d ← digitValue? c
    let place := place + d * weight
    let t := threshold position bias
    if d < t then
      let count := points.length + 1
      let bias := adapt (place - start) count (start == 0)
      let point := next + place / count
      let index := place % count
      if point > 0x10FFFF ∨ (0xD800 ≤ point ∧ point ≤ 0xDFFF) then none
      else decodeFrom (insertAt index point points) point (index + 1) bias (index + 1) 1 36 cs
    else decodeFrom points next place bias start (weight * (36 - t)) (position + 36) cs

/-- **The label of a written form.** -/
def decode? (written : List Char) : Option (List Char) :=
  let tail := (written.reverse.takeWhile (· != '-')).reverse
  let basic := written.take (written.length - tail.length - 1)
  if basic.any (·.toNat ≥ 0x80) then none
  else (decodeFrom (basic.map Char.toNat) 0x80 0 72 0 1 36 tail).map (·.map Char.ofNat)

end RunnerDispatch.Idna.Punycode

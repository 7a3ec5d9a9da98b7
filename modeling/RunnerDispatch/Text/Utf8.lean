import RunnerDispatch.Bytes

/-!
# Bytes that are not quite UTF-8

* `Utf8.front`: how many bytes in front belong together, and whether they are a character.
* `Utf8.validLength`: how far bytes are well formed.
* `Utf8.lossy`: the text of any bytes; **each longest run that might have become a character is replaced
  by one replacement character**.
-/

namespace RunnerDispatch.Text.Utf8

/-- A leading byte's number of continuation bytes, and the bounds of the first of them. -/
def lead? (b : UInt8) : Option (Nat × UInt8 × UInt8) :=
  if b < 0x80 then some (0, 0x80, 0xBF)
  else if b < 0xC2 then none
  else if b < 0xE0 then some (1, 0x80, 0xBF)
  else if b = 0xE0 then some (2, 0xA0, 0xBF)
  else if b = 0xED then some (2, 0x80, 0x9F)
  else if b < 0xF0 then some (2, 0x80, 0xBF)
  else if b = 0xF0 then some (3, 0x90, 0xBF)
  else if b < 0xF4 then some (3, 0x80, 0xBF)
  else if b = 0xF4 then some (3, 0x80, 0x8F)
  else none

/-- Counts continuation bytes, the first of which has bounds of its own. -/
def continuation : (due : Nat) → (low high : UInt8) → Bytes → Nat
  | 0, _, _, _ => 0
  | _ + 1, _, _, [] => 0
  | due + 1, low, high, b :: rest =>
    if low ≤ b ∧ b ≤ high then continuation due 0x80 0xBF rest + 1 else 0

/-- How many bytes in front belong together, and whether they are a character. -/
def front : Bytes → Nat × Bool
  | [] => (0, false)
  | b :: rest =>
    match lead? b with
    | none => (1, false)
    | some (due, low, high) =>
      let n := continuation due low high rest
      (n + 1, n == due)

/-- Counts the bytes that are well formed, onto a count. -/
def validFrom : (tries : Nat) → (count : Nat) → Bytes → Nat
  | 0, count, _ => count
  | _ + 1, count, [] => count
  | tries + 1, count, b :: rest =>
    match front (b :: rest) with
    | (n, true) => validFrom tries (count + n) ((b :: rest).drop n)
    | (_, false) => count

/-- **How far bytes are well formed.** -/
def validLength (bytes : Bytes) : Nat := validFrom bytes.length 0 bytes

/-- Repairs bytes onto those repaired already, kept last first. -/
def repair : (tries : Nat) → (done : Bytes) → Bytes → Bytes
  | 0, done, _ => done.reverse
  | _ + 1, done, [] => done.reverse
  | tries + 1, done, b :: rest =>
    match front (b :: rest) with
    | (n, true) => repair tries (((b :: rest).take n).reverse ++ done) ((b :: rest).drop n)
    | (n, false) => repair tries ([0xBD, 0xBF, 0xEF] ++ done) ((b :: rest).drop n)

/-- **The text of any bytes.** -/
def lossy (bytes : Bytes) : String := (Bytes.toString? (repair bytes.length [] bytes)).getD ""

end RunnerDispatch.Text.Utf8

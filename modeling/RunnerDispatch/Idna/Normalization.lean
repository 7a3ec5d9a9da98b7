import RunnerDispatch.Idna.NormalizationTable
import RunnerDispatch.Text.Ranges

/-!
# Canonical composition

The same letter with a mark can be one character or two. `compose` brings a text into the form with
the fewest: **characters are taken apart, the marks on each letter are ordered by class, and what can be
put together is put together again**. Hangul syllables are taken apart and put together by rule.
-/

namespace RunnerDispatch.Idna

open Text

/-- A composed character and its parts. -/
structure Composed where
  whole : Nat
  first : Nat
  second : Nat

/-- Reads a composed character. -/
def readComposed (entry : String) : Composed :=
  match entry.splitOn "=" with
  | [whole, parts] =>
    match parts.splitOn "," with
    | [first, second] => ⟨codePoint whole, codePoint first, codePoint second⟩
    | _ => ⟨0, 0, 0⟩
  | _ => ⟨0, 0, 0⟩

/-- Reads a range of marks with their class. -/
def readClass (entry : String) : (Nat × Nat) × Nat :=
  match entry.splitOn "=" with
  | [range, k] => (codePointRange range, codePoint k)
  | _ => ((0, 0), 0)

def composedTable : List Composed := (entries composedText).map readComposed

def classTable : List ((Nat × Nat) × Nat) := (entries classText).map readClass

/-- The class of a mark; zero for characters that marks stand on. -/
def markClass (n : Nat) : Nat :=
  if n < 0x300 then 0
  else
    match classTable.find? fun e => e.1.1 ≤ n && n ≤ e.1.2 with
    | some e => e.2
    | none => 0

/-- Takes a Hangul syllable apart. -/
def splitSyllable (n : Nat) : List Nat :=
  let i := n - 0xAC00
  let parts := [0x1100 + i / 588, 0x1161 + i % 588 / 28]
  if i % 28 = 0 then parts else parts ++ [0x11A7 + i % 28]

/-- Takes a character apart, and its first part again. -/
def takeApart : (depth : Nat) → Nat → List Nat
  | 0, n => [n]
  | depth + 1, n =>
    if n < 0xC0 then [n]
    else if 0xAC00 ≤ n ∧ n ≤ 0xD7A3 then splitSyllable n
    else
      match composedTable.find? (·.whole == n) with
      | some e => takeApart depth e.first ++ [e.second]
      | none => [n]

/-- Puts a mark behind the marks before it that have at most its class. -/
def insertMark (k n : Nat) : List (Nat × Nat) → List (Nat × Nat)
  | [] => [(k, n)]
  | (k', n') :: rest =>
    if k' ≤ k then (k', n') :: insertMark k n rest else (k, n) :: (k', n') :: rest

/-- Orders the marks on each letter; the marks since the last letter wait. -/
def orderMarks : (waiting : List (Nat × Nat)) → List Nat → List Nat
  | waiting, [] => waiting.map (·.2)
  | waiting, n :: ns =>
    let k := markClass n
    if k = 0 then waiting.map (·.2) ++ n :: orderMarks [] ns
    else orderMarks (insertMark k n waiting) ns

/-- The character made of two. -/
def joined? (a b : Nat) : Option Nat :=
  if 0x1100 ≤ a ∧ a < 0x1113 ∧ 0x1161 ≤ b ∧ b < 0x1176 then
    some (0xAC00 + ((a - 0x1100) * 21 + (b - 0x1161)) * 28)
  else if 0xAC00 ≤ a ∧ a ≤ 0xD7A3 ∧ (a - 0xAC00) % 28 = 0 ∧ 0x11A7 < b ∧ b < 0x11C3 then
    some (a + (b - 0x11A7))
  else (composedTable.find? fun e => e.first == a && e.second == b).map (·.whole)

/-- Puts together a letter and what stands behind it. Kept aside, last first, are the marks that could
not be joined; a mark joins the letter unless one of its class or none is in between. -/
def putTogether : (letter : Option Nat) → (aside : List Nat) → List Nat → List Nat
  | letter, aside, [] => letter.toList ++ aside.reverse
  | none, aside, n :: ns =>
    if markClass n = 0 then aside.reverse ++ putTogether (some n) [] ns
    else putTogether none (n :: aside) ns
  | some letter, aside, n :: ns =>
    let k := markClass n
    let free := match aside with
      | [] => true
      | m :: _ => markClass m < k
    match (if free then joined? letter n else none) with
    | some whole => putTogether (some whole) aside ns
    | none =>
      if k = 0 then letter :: aside.reverse ++ putTogether (some n) [] ns
      else putTogether (some letter) (n :: aside) ns

/-- **Canonical composition** of a text. -/
def compose (cs : List Char) : List Char :=
  if cs.all (·.toNat < 0xC0) then cs
  else
    let apart := orderMarks [] (cs.flatMap fun c => takeApart 4 c.toNat)
    (putTogether none [] apart).map Char.ofNat

end RunnerDispatch.Idna

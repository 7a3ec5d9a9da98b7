import RunnerDispatch.Text.Casing.Table

/-!
# Lowercasing

Full lowercasing of text. Every character is replaced by its own lower case, which is one character
except for `İ`, whose dot is kept as a combining mark; the capital sigma alone looks around itself.

* `lowerChar`: the lower case of a character, its surroundings aside.
* `endsWord`: **a sigma is final** when a cased letter stands before it and none after it, where
  characters such as accents and apostrophes are passed over.
* `lower`: the lower case of a text.
* `lowerOnto_eq`: what is written already does not influence what follows.
-/

namespace RunnerDispatch.Text.Casing

/-- Letters that have a case, in either case or in title case. -/
def isCased (c : Char) : Bool := cased.has c

/-- Characters that are passed over when the surroundings of a sigma are examined. -/
def isIgnorable (c : Char) : Bool := ignorable.has c

/-- The code point a single-character lower case leads to. -/
def shifted (n : Nat) : Nat :=
  match shifts.find? (·.covers n) with
  | some s => (n + s.up) - s.down
  | none => n

/-- The lower case of one character, its surroundings aside. -/
def lowerChar (c : Char) : List Char :=
  if c.toNat < 0x80 then [c.toLower]
  else if c = 'İ' then ['i', '\u0307']
  else [Char.ofNat (shifted c.toNat)]

/-- Whether the first character that is not passed over has a case. -/
def metCased (cs : List Char) : Bool :=
  match cs.dropWhile isIgnorable with
  | c :: _ => isCased c
  | [] => false

/-- Whether a sigma between these characters, the earlier ones nearest first, ends a word. -/
def endsWord (before after : List Char) : Bool :=
  metCased before && !metCased after

/-- The lower case of one character in its place. -/
def lowerAt (before : List Char) (c : Char) (after : List Char) : List Char :=
  if c = 'Σ' then [if endsWord before after then 'ς' else 'σ'] else lowerChar c

/-- Lowercases what is left of a text onto the part that is done, kept last character first. -/
def lowerOnto (done : List Char) : (before left : List Char) → List Char
  | _, [] => done.reverse
  | before, c :: left => lowerOnto ((lowerAt before c left).reverse ++ done) (c :: before) left

theorem lowerOnto_eq (done before left : List Char) :
    lowerOnto done before left = done.reverse ++ lowerOnto [] before left := by
  induction left generalizing done before with
  | nil => simp [lowerOnto]
  | cons c left ih =>
    rw [lowerOnto, ih, lowerOnto, ih (_ ++ [])]
    simp

/-- **The lower case of a text.** -/
def lower (s : String) : String := String.ofList (lowerOnto [] [] s.toList)

end RunnerDispatch.Text.Casing

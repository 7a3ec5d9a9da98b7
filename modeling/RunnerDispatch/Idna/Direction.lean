import RunnerDispatch.Idna.DirectionTable
import RunnerDispatch.Idna.Normalization
import RunnerDispatch.Text.Ranges

/-!
# Marks, joiners and direction in labels

What a label of a domain name has to satisfy beyond its characters.

* `startsWithMark`: no label starts with a combining mark.
* `joinersAllowed`: an invisible joiner stands after a sign that suppresses a vowel; the one that
  forbids joining may stand between two letters that would join otherwise.
* `directionAllowed`: **in a name that has letters written from right to left, each label keeps to one
  direction** and its digits and its ends fit that direction.
-/

namespace RunnerDispatch.Idna

open Text

def marks : Ranges := Ranges.ofText markText

/-- Whether a label starts with a combining mark. -/
def startsWithMark : List Char → Bool
  | [] => false
  | c :: _ => marks.has c

def dualJoining : Ranges := Ranges.ofText dualJoiningText

def leftJoining : Ranges := Ranges.ofText leftJoiningText

def rightJoining : Ranges := Ranges.ofText rightJoiningText

def transparent : Ranges := Ranges.ofText transparentText

/-- The class of the signs that suppress a vowel. -/
def viramaClass : Nat := 9

/-- Whether the first letter that joining does not pass over is one of these. -/
def joins (letters : Char → Bool) (cs : List Char) : Bool :=
  match cs.dropWhile transparent.has with
  | c :: _ => letters c
  | [] => false

/-- Whether the invisible joiners of a label stand where they may; given is also what stands before,
nearest first. -/
def joinersAllowed : (before : List Char) → List Char → Bool
  | _, [] => true
  | before, c :: cs =>
    let afterVirama := match before with
      | b :: _ => markClass b.toNat == viramaClass
      | [] => false
    let allowed :=
      if c = '\u200c' then
        afterVirama || joins (fun b => leftJoining.has b || dualJoining.has b) before &&
          joins (fun b => rightJoining.has b || dualJoining.has b) cs
      else if c = '\u200d' then afterVirama
      else true
    allowed && joinersAllowed (c :: before) cs

/-- How a character is directed. -/
inductive Direction
  | leftToRight
  | rightToLeft
  | arabicNumber
  | europeanNumber
  | nonspacing
  | neutral
  deriving DecidableEq, Repr

def rightToLeftLetters : Ranges := Ranges.ofText rightToLeftText

def arabicNumbers : Ranges := Ranges.ofText arabicNumberText

def europeanNumbers : Ranges := Ranges.ofText europeanNumberText

def nonspacingMarks : Ranges := Ranges.ofText nonspacingText

def neutrals : Ranges := Ranges.ofText neutralText

/-- The direction of a character that a domain name may hold. -/
def directionOf (c : Char) : Direction :=
  if rightToLeftLetters.has c then .rightToLeft
  else if arabicNumbers.has c then .arabicNumber
  else if europeanNumbers.has c then .europeanNumber
  else if nonspacingMarks.has c then .nonspacing
  else if neutrals.has c then .neutral
  else .leftToRight

/-- Whether a label makes its name one with letters from right to left. -/
def isDirected (label : List Char) : Bool :=
  label.any fun c => directionOf c == .rightToLeft || directionOf c == .arabicNumber

/-- Whether the last character, marks aside, is directed in one of these ways. -/
def endsWith (directions : List Direction) (label : List Direction) : Bool :=
  match label.reverse.dropWhile (· == .nonspacing) with
  | d :: _ => directions.contains d
  | [] => false

/-- Whether a label keeps to one direction. -/
def directionAllowed (label : List Char) : Bool :=
  let directions := label.map directionOf
  match directions with
  | [] => true
  | .rightToLeft :: _ =>
    directions.all (· != .leftToRight) &&
      endsWith [.rightToLeft, .europeanNumber, .arabicNumber] directions &&
      !(directions.contains .europeanNumber && directions.contains .arabicNumber)
  | .leftToRight :: _ =>
    directions.all (fun d => d != .rightToLeft && d != .arabicNumber) &&
      endsWith [.leftToRight, .europeanNumber] directions
  | _ => false

end RunnerDispatch.Idna

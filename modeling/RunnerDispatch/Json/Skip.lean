import RunnerDispatch.Json.Number

/-!
# Passing over values

Members that nobody asked for are passed over. They have to be well formed, but **their strings may
hold any bytes, their numbers may have any size and they may be nested to any depth**: the brackets
that are open are a list, innermost first, and not a recursion.

* `Frame`: an open bracket.
* `skipFrom`: passes over what is due, until all open brackets are closed.
* `skipValue`: passes over one value.
-/

namespace RunnerDispatch.Json

open Text

/-- An open bracket. -/
inductive Frame
  | list
  | record
  deriving DecidableEq, Repr

namespace Frame

/-- The bracket that closes it. -/
def closing : Frame → UInt8
  | list => Ascii.closeBracket
  | record => Ascii.closeBrace

/-- The cause when the text ends inside. -/
def unfinished : Frame → Cause
  | list => .endInList
  | record => .endInRecord

/-- The cause when something other than a comma follows an item. -/
def expected : Frame → Cause
  | list => .expectedListCommaOrEnd
  | record => .expectedRecordCommaOrEnd

end Frame

/-- Reads the colon between the name and the value of a member. -/
def readColon (s : Bytes) : Except Fault Bytes :=
  match skipBlank s with
  | [] => .error (.onNext .endInRecord [])
  | b :: s => if b = Ascii.colon then .ok s else .error (.onNext .expectedColon (b :: s))

/-- Passes over what stands before the value of an item: nothing, or the name of a member. -/
def Frame.skipName : Frame → Bytes → Except Fault Bytes
  | list, s => .ok s
  | record, s =>
    match skipBlank s with
    | [] => .error (.onNext .endInRecord [])
    | b :: s =>
      if b ≠ Ascii.quote then .error (.onNext .nameNotText (b :: s))
      else
        match skipText s with
        | .ok s => readColon s
        | .error e => .error e

/-- Passes over a value without parts, or opens a bracket. -/
def enter (s : Bytes) : Except Fault (Option Frame × Bytes) :=
  match skipBlank s with
  | [] => .error (.onNext .endInValue [])
  | b :: s =>
    let plain (r : Except Fault Bytes) : Except Fault (Option Frame × Bytes) := r.map (none, ·)
    if b = Ascii.byte 'n' then plain (readWord (Bytes.ofString "ull") s)
    else if b = Ascii.byte 't' then plain (readWord (Bytes.ofString "rue") s)
    else if b = Ascii.byte 'f' then plain (readWord (Bytes.ofString "alse") s)
    else if b = Ascii.minus then plain (skipNumber s)
    else if Ascii.isDigit b then plain (skipNumber (b :: s))
    else if b = Ascii.quote then plain (skipText s)
    else if b = Ascii.openBracket then .ok (some .list, s)
    else if b = Ascii.openBrace then .ok (some .record, s)
    else .error (.onNext .expectedValue (b :: s))

/-- What is to follow. -/
inductive Due
  | value
  | itemOrEnd
  | commaOrEnd
  deriving DecidableEq, Repr

/-- Passes over what is due and then over all that is still open. -/
def skipFrom : (fuel : Nat) → Due → List Frame → Bytes → Except Fault Bytes
  | 0, _, _, s => .error (.before .endInValue s)
  | fuel + 1, .value, frames, s =>
    match enter s with
    | .ok (some frame, s) => skipFrom fuel .itemOrEnd (frame :: frames) s
    | .ok (none, s) => skipFrom fuel .commaOrEnd frames s
    | .error e => .error e
  | _ + 1, _, [], s => .ok s
  | fuel + 1, due, frame :: outer, s =>
    match skipBlank s with
    | [] => .error (.onNext frame.unfinished [])
    | b :: s =>
      if b = frame.closing then skipFrom fuel .commaOrEnd outer s
      else if due = .commaOrEnd ∧ b ≠ Ascii.comma then .error (.onNext frame.expected (b :: s))
      else
        match frame.skipName (if due = .commaOrEnd then s else b :: s) with
        | .ok s => skipFrom fuel .value (frame :: outer) s
        | .error e => .error e

/-- **Passes over one value.** The fuel has to be twice the number of bytes left, and two. -/
def skipValue (fuel : Nat) (s : Bytes) : Except Fault Bytes := skipFrom fuel .value [] s

/-- Enough fuel to read a text. -/
def fuelFor (s : Bytes) : Nat := 2 * s.length + 2

end RunnerDispatch.Json

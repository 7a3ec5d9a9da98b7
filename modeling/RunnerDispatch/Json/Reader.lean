import RunnerDispatch.Json.Shape

/-!
# Reading any value

* `readValue`: a value of any kind. **At most 127 brackets may be open at a time.**
* `Value.parse`: the value that a text holds.
-/

namespace RunnerDispatch.Json

open Text

/-- One more than the number of brackets that may be open. -/
def depthLimit : Nat := 128

/-- Reads members onto those read already, kept last member first. -/
def readPairs {α : Type} (value : Reader α) :
    (fuel : Nat) → (first : Bool) → (read : List (String × α)) → Reader (List (String × α))
  | 0, _, _, s => .error (.before .endInRecord s)
  | fuel + 1, first, read, s =>
    match nextName first s with
    | .error e => .error e
    | .ok none => .ok (read.reverse, s)
    | .ok (some (name, s)) =>
      match readColon s with
      | .error e => .error e
      | .ok s =>
        match value s with
        | .ok (a, s) => readPairs value fuel false ((name, a) :: read) s
        | .error e => .error e

/-- **Reads a value of any kind**, in which one bracket less than `depth` may be opened. -/
def readValue : (fuel depth : Nat) → Reader Value
  | 0, _, s => .error (.before .endInValue s)
  | fuel + 1, depth, s =>
    match skipBlank s with
    | [] => .error (.onNext .endInValue [])
    | b :: s =>
      let word (w : String) (v : Value) := (readWord (Bytes.ofString w) s).map (v, ·)
      if b = Ascii.byte 'n' then word "ull" .null
      else if b = Ascii.byte 't' then word "rue" (.bool true)
      else if b = Ascii.byte 'f' then word "alse" (.bool false)
      else if b = Ascii.minus then readNumber false s
      else if Ascii.isDigit b then readNumber true (b :: s)
      else if b = Ascii.quote then (readText s).map fun (t, s) => (.text t, s)
      else if b ≠ Ascii.openBracket ∧ b ≠ Ascii.openBrace then
        .error (.onNext .expectedValue (b :: s))
      else if depth ≤ 1 then .error (.onNext .nestedTooDeeply (b :: s))
      else if b = Ascii.openBracket then
        conclude closeList
          ((readItems (readValue fuel (depth - 1)) fuel true [] s).map fun (vs, s) => (.list vs, s))
      else
        conclude closeRecord
          ((readPairs (readValue fuel (depth - 1)) fuel true [] s).map fun (ms, s) =>
            (.record ms, s))

/-- **The value that a text holds.** -/
def Value.parse (text : Bytes) : Except Fault Value :=
  readWhole (fun fuel => readValue fuel depthLimit) text

end RunnerDispatch.Json

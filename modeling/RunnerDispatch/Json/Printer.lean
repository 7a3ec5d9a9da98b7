import RunnerDispatch.Json.Value
import RunnerDispatch.Text.Hex

/-!
# JSON text

* `Json.escape`: a character inside a string. **Quotes, backslashes and controls are escaped**, all
  else stands for itself.
* `Value.compact`: a value without blanks.
* `Value.pretty`: a value over several lines, two columns for each level.
-/

namespace RunnerDispatch.Json

/-- One character as it stands inside a string. -/
def escape (c : Char) : List Char :=
  if c = '"' then ['\\', '"']
  else if c = '\\' then ['\\', '\\']
  else if c = '\n' then ['\\', 'n']
  else if c = '\r' then ['\\', 'r']
  else if c = '\t' then ['\\', 't']
  else if c = '\x08' then ['\\', 'b']
  else if c = '\x0c' then ['\\', 'f']
  else if c.toNat < 0x20 then
    ['\\', 'u', '0', '0', Text.Hex.digit (c.toNat / 16), Text.Hex.digit (c.toNat % 16)]
  else [c]

/-- A text as a JSON string. -/
def textLiteral (s : String) : String := "\"" ++ String.ofList (s.toList.flatMap escape) ++ "\""

mutual

/-- **A value without blanks.** -/
def Value.compact : Value → String
  | .null => "null"
  | .bool b => if b then "true" else "false"
  | .integer n => toString n
  | .float x => floatText x
  | .text s => textLiteral s
  | .list items => "[" ++ ",".intercalate (compactItems items) ++ "]"
  | .record members => "\x7b" ++ ",".intercalate (compactMembers members) ++ "\x7d"

/-- Every item without blanks. -/
def compactItems : List Value → List String
  | [] => []
  | v :: vs => v.compact :: compactItems vs

/-- Every member without blanks. -/
def compactMembers : List (String × Value) → List String
  | [] => []
  | (name, v) :: ms => (textLiteral name ++ ":" ++ v.compact) :: compactMembers ms

end

/-- A new line at some level. -/
def indent (level : Nat) : String := "\n" ++ String.ofList (List.replicate (2 * level) ' ')

/-- Lines between two brackets, one level further in. -/
def enclose (level : Nat) (opening closing : String) (lines : List String) : String :=
  if lines.isEmpty then opening ++ closing
  else
    opening ++ indent (level + 1) ++ ("," ++ indent (level + 1)).intercalate lines ++ indent level ++
      closing

mutual

/-- A value over several lines, whose first line stands at some level. -/
def prettyAt (level : Nat) : Value → String
  | .list items => enclose level "[" "]" (prettyItems (level + 1) items)
  | .record members => enclose level "\x7b" "\x7d" (prettyMembers (level + 1) members)
  | v => v.compact

/-- Every item over several lines. -/
def prettyItems (level : Nat) : List Value → List String
  | [] => []
  | v :: vs => prettyAt level v :: prettyItems level vs

/-- Every member over several lines. -/
def prettyMembers (level : Nat) : List (String × Value) → List String
  | [] => []
  | (name, v) :: ms => (textLiteral name ++ ": " ++ prettyAt level v) :: prettyMembers level ms

end

/-- **A value over several lines**, two columns for each level. -/
def Value.pretty (v : Value) : String := prettyAt 0 v

end RunnerDispatch.Json

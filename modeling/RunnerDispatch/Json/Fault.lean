import RunnerDispatch.Json.Value
import RunnerDispatch.Text.Ascii
import RunnerDispatch.Text.Quoted

/-!
# Why a text is not the JSON that was asked for

A fault has a cause and a place. While a text is read the place is counted from its end, so that no
position has to be carried along; `Fault.message` turns it into a line and a column.

* `Cause.message`: the wording of a cause.
* `Fault.place`: **a fault that belongs to a whole value is placed where reading of it ends**, and a
  fault that stays loose is reported without a place.
-/

namespace RunnerDispatch.Json

/-- What stands in the text instead of what was asked for. -/
inductive Found
  | null
  | bool (b : Bool)
  | integer (n : Int)
  | float (x : Float)
  | text (s : String)
  | list
  | record

def Found.description : Found → String
  | null => "null"
  | bool b => "boolean `" ++ toString b ++ "`"
  | integer n => "integer `" ++ toString n ++ "`"
  | float x => "floating point `" ++ floatText x ++ "`"
  | text s => "string " ++ Text.Quoted.quote s
  | list => "sequence"
  | record => "map"

/-- The kind of a value, as faults name it. -/
def Value.found : Value → Found
  | .null => .null
  | .bool b => .bool b
  | .integer n => .integer n
  | .float x => .float x
  | .text s => .text s
  | .list _ => .list
  | .record _ => .record

/-- Why reading stops. -/
inductive Cause
  | endInList
  | endInRecord
  | endInText
  | endInValue
  | expectedColon
  | expectedListCommaOrEnd
  | expectedRecordCommaOrEnd
  | expectedWord
  | expectedValue
  | invalidEscape
  | invalidNumber
  | numberOutOfRange
  | invalidCodePoint
  | controlInText
  | nameNotText
  | loneSurrogate
  | trailingComma
  | trailingCharacters
  | endOfEscape
  | nestedTooDeeply
  | wrongType (found : Found) (expected : String)
  | wrongValue (found : Found) (expected : String)
  | wrongLength (length : Nat) (expected : String)
  | missingMember (name : String)
  | duplicateMember (name : String)
  | unknownVariant (name : String) (expected : List String)
  | refused (message : String)

/-- A choice of names, as faults offer it. -/
def oneOf (names : List String) : String :=
  let quoted := names.map fun n => "`" ++ n ++ "`"
  match quoted with
  | [] => ""
  | [a] => "expected " ++ a
  | [a, b] => "expected " ++ a ++ " or " ++ b
  | _ => "expected one of " ++ ", ".intercalate quoted

def Cause.message : Cause → String
  | endInList => "EOF while parsing a list"
  | endInRecord => "EOF while parsing an object"
  | endInText => "EOF while parsing a string"
  | endInValue => "EOF while parsing a value"
  | expectedColon => "expected `:`"
  | expectedListCommaOrEnd => "expected `,` or `]`"
  | expectedRecordCommaOrEnd => "expected `,` or `\x7d`"
  | expectedWord => "expected ident"
  | expectedValue => "expected value"
  | invalidEscape => "invalid escape"
  | invalidNumber => "invalid number"
  | numberOutOfRange => "number out of range"
  | invalidCodePoint => "invalid unicode code point"
  | controlInText => "control character (\\u0000-\\u001F) found while parsing a string"
  | nameNotText => "key must be a string"
  | loneSurrogate => "lone leading surrogate in hex escape"
  | trailingComma => "trailing comma"
  | trailingCharacters => "trailing characters"
  | endOfEscape => "unexpected end of hex escape"
  | nestedTooDeeply => "recursion limit exceeded"
  | wrongType found expected => "invalid type: " ++ found.description ++ ", expected " ++ expected
  | wrongValue found expected => "invalid value: " ++ found.description ++ ", expected " ++ expected
  | wrongLength length expected =>
    "invalid length " ++ toString length ++ ", expected " ++ expected
  | missingMember name => "missing field `" ++ name ++ "`"
  | duplicateMember name => "duplicate field `" ++ name ++ "`"
  | unknownVariant name expected => "unknown variant `" ++ name ++ "`, " ++ oneOf expected
  | refused message => message

/-- A cause with its place. -/
inductive Fault
  /-- At the place after which so many bytes are left. -/
  | placed (cause : Cause) (left : Nat)
  /-- Somewhere in the value that is being read, of which this much is left. -/
  | loose (cause : Cause) (rest : Bytes)

namespace Fault

def cause : Fault → Cause
  | placed c _ => c
  | loose c _ => c

/-- A fault right after what has been read. -/
def before (cause : Cause) (rest : Bytes) : Fault := placed cause rest.length

/-- A fault at the next byte, or at the end of the text. -/
def onNext (cause : Cause) (rest : Bytes) : Fault := placed cause (rest.length - 1)

/-- Places a loose fault where reading stands. -/
def place : Fault → Fault
  | placed c left => placed c left
  | loose c rest => before c rest

/-- Line and column after so many bytes; both count from one, and a column counts bytes. -/
def position (text : Bytes) (count : Nat) : Nat × Nat :=
  let read := text.take count
  let lines := (read.filter (· == Text.Ascii.newline)).length
  let column := (read.reverse.takeWhile (· != Text.Ascii.newline)).length
  (lines + 1, column)

/-- The wording of a fault in a text. -/
def message (text : Bytes) : Fault → String
  | loose c _ => c.message
  | placed c left =>
    let (line, column) := position text (text.length - left)
    c.message ++ " at line " ++ toString line ++ " column " ++ toString column

end Fault

end RunnerDispatch.Json

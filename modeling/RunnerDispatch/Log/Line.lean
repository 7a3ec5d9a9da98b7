import RunnerDispatch.Json.Printer
import RunnerDispatch.Log.Record
import RunnerDispatch.Text.Quoted

/-!
# Records as they are written

* `Record.line`: a record on one line for people: level, part, message and the values by their names.
* `Record.toJson`: **a record as a JSON value**, with the message among the fields.
-/

namespace RunnerDispatch.Log

/-- A value on a line for people. -/
def FieldValue.shown : FieldValue → String
  | number n => toString n
  | text s => s
  | literal s => Text.Quoted.quote s

/-- A value in JSON. -/
def FieldValue.toJson : FieldValue → Json.Value
  | number n => .integer n
  | text s => .text s
  | literal s => .text s

/-- Columns of a level. -/
def levelColumns : Nat := 5

/-- A level with blanks in front. -/
def Level.column (l : Level) : String :=
  String.ofList (List.replicate (levelColumns - l.name.length) ' ') ++ l.name

namespace Record

/-- **A record on one line.** -/
def line (r : Record) : String :=
  r.level.column ++ " " ++ r.part.path ++ ": " ++ r.message ++
    String.join (r.fields.map fun f => " " ++ f.1 ++ "=" ++ f.2.shown)

/-- The parts of a record in JSON. -/
def members (r : Record) : List (String × Json.Value) :=
  [("level", .text r.level.name),
   ("fields", .record (("message", .text r.message) :: r.fields.map fun f => (f.1, f.2.toJson))),
   ("target", .text r.part.path)]

/-- **A record as a JSON value.** -/
def toJson (r : Record) : Json.Value := .record r.members

/-- A record on one line, with the time it was written at. -/
def datedLine (time : String) (r : Record) : String := time ++ " " ++ r.line

/-- A record in JSON, with the time it was written at. -/
def datedJson (time : String) (r : Record) : String :=
  (Json.Value.record (("timestamp", .text time) :: r.members)).compact

end Record

end RunnerDispatch.Log

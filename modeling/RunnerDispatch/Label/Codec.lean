import RunnerDispatch.Json.Printer
import RunnerDispatch.Json.Shape
import RunnerDispatch.Label

/-!
# Labels in JSON

A label is a JSON string. **Reading one lowercases it**, whatever letter case it has in the text.
-/

namespace RunnerDispatch.Label

/-- The JSON text of a label. -/
def encode (l : Label) : String := (Json.Value.text l.text).compact

/-- The label of a JSON text. -/
def decode (text : Bytes) : Except Json.Fault Label :=
  (Json.readWhole (fun _ => Json.readString) text).map ofString

end RunnerDispatch.Label

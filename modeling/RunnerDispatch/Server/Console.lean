import RunnerDispatch.Log.Filter
import RunnerDispatch.Log.Line
import RunnerDispatch.Settings
import Std.Time.Format
import Std.Time.Zoned

/-!
# Reporting on the console

* `Console.report`: writes the records that a filter admits, each with the time.
-/

namespace RunnerDispatch.Server

/-- Where and how records are written. -/
structure Console where
  filter : Log.Filter
  format : LogFormat

namespace Console

/-- The present time, at Greenwich and to the microsecond. -/
def time : IO String := do
  let now := Std.Time.DateTime.ofTimestamp (← Std.Time.Timestamp.now) Std.Time.TimeZone.ZoneRules.UTC
  return now.format "uuuu-MM-dd'T'HH:mm:ss.SSSSSS'Z'"

/-- Writes the records that the filter admits. -/
def report (c : Console) (records : List Log.Record) : IO Unit :=
  for r in records.filter c.filter.admits do
    let time ← time
    IO.println (match c.format with
      | .pretty => r.datedLine time
      | .json => r.datedJson time)

end Console

end RunnerDispatch.Server

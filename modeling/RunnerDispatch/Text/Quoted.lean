import RunnerDispatch.Text.Hex
import RunnerDispatch.Text.Quoted.Table

/-!
# Quoted text for messages

A text between quotes, so that a reader of a message sees where it begins and ends and what is in it.
Quotes and backslashes are escaped, the common controls have letters, and **every other character that
would not show is written by its number**, as in `\u{200b}`.
-/

namespace RunnerDispatch.Text.Quoted

/-- One character as it stands between quotes. -/
def escape (c : Char) : List Char :=
  if c = '"' then ['\\', '"']
  else if c = '\\' then ['\\', '\\']
  else if c = '\t' then ['\\', 't']
  else if c = '\n' then ['\\', 'n']
  else if c = '\r' then ['\\', 'r']
  else if c.toNat = 0 then ['\\', '0']
  else if hidden.has c then ("\\u\x7b" ++ Hex.ofNat c.toNat ++ "\x7d").toList
  else [c]

/-- **A text between quotes.** -/
def quote (s : String) : String := "\"" ++ String.ofList (s.toList.flatMap escape) ++ "\""

end RunnerDispatch.Text.Quoted

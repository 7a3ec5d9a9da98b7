import RunnerDispatch.Text.Hex
import RunnerDispatch.Toml.Value

/-!
# Blanks, strings and keys

* `skipBlanks`, `skipLine`: blanks inside a line, and the rest of a line with its comment.
* `readText`: a string in any of the four notations. **A line break inside is one character however it
  is written**, and a backslash at the end of a line takes the blanks that follow with it.
* `readKey`: a key and the parts in front of it, all separated by full stops.
-/

namespace RunnerDispatch.Toml

def isBlank (c : Char) : Bool := c == ' ' || c == '\t'

/-- Drops the blanks in front. -/
def skipBlanks (cs : List Char) : List Char := cs.dropWhile isBlank

/-- Whether a character may stand in comments and, the quotes aside, in strings. -/
def isPlain (c : Char) : Bool := c == '\t' || (0x20 ≤ c.toNat && c.toNat != 0x7F)

/-- What follows a line break, if one is in front. -/
def afterBreak? : List Char → Option (List Char)
  | '\n' :: cs => some cs
  | '\r' :: '\n' :: cs => some cs
  | _ => none

/-- Drops a comment if one is in front. -/
def skipComment : List Char → List Char
  | '#' :: cs => cs.dropWhile isPlain
  | cs => cs

/-- Passes over the rest of a line, in which only blanks and a comment may stand. -/
def skipLine (cs : List Char) : Option (List Char) :=
  match skipComment (skipBlanks cs) with
  | [] => some []
  | cs => afterBreak? cs

/-- Drops blanks, line breaks and comments; a comment has to end in a line break. -/
def skipSpace : (fuel : Nat) → List Char → Option (List Char)
  | 0, _ => none
  | fuel + 1, cs =>
    match skipBlanks cs with
    | '#' :: cs => (afterBreak? (cs.dropWhile isPlain)).bind (skipSpace fuel)
    | cs =>
      match afterBreak? cs with
      | some cs => skipSpace fuel cs
      | none => some cs

/-- The character that so many hexadecimal digits number. -/
def numbered? (count : Nat) (cs : List Char) : Option (Char × List Char) := do
  let digits := cs.take count
  if digits.length < count then none
  let n ← digits.foldlM (fun n c => (Text.Hex.value? c).map (16 * n + ·)) 0
  if n < 0xD800 ∨ (0xDFFF < n ∧ n ≤ 0x10FFFF) then some (Char.ofNat n, cs.drop count) else none

/-- Reads what follows a backslash. -/
def readEscape : Reader Char
  | 'b' :: cs => some ('\x08', cs)
  | 'f' :: cs => some ('\x0c', cs)
  | 'n' :: cs => some ('\n', cs)
  | 'r' :: cs => some ('\r', cs)
  | 't' :: cs => some ('\t', cs)
  | '"' :: cs => some ('"', cs)
  | '\\' :: cs => some ('\\', cs)
  | 'u' :: cs => numbered? 4 cs
  | 'U' :: cs => numbered? 8 cs
  | _ => none

/-- Reads a string between double quotes after its opening quote, onto the characters read already,
kept last first. -/
def readBasic : (fuel : Nat) → (read : List Char) → Reader String
  | 0, _, _ => none
  | _ + 1, _, [] => none
  | _ + 1, read, '"' :: cs => some (String.ofList read.reverse, cs)
  | fuel + 1, read, '\\' :: cs =>
    match readEscape cs with
    | some (c, cs) => readBasic fuel (c :: read) cs
    | none => none
  | fuel + 1, read, c :: cs => if isPlain c then readBasic fuel (c :: read) cs else none

/-- Reads a string between single quotes after its opening quote. -/
def readLiteral : (fuel : Nat) → (read : List Char) → Reader String
  | 0, _, _ => none
  | _ + 1, _, [] => none
  | _ + 1, read, '\'' :: cs => some (String.ofList read.reverse, cs)
  | fuel + 1, read, c :: cs => if isPlain c then readLiteral fuel (c :: read) cs else none

/-- Drops blanks and line breaks. -/
def skipLines : (fuel : Nat) → List Char → List Char
  | 0, cs => cs
  | fuel + 1, cs =>
    let cs := skipBlanks cs
    match afterBreak? cs with
    | some cs => skipLines fuel cs
    | none => cs

/-- Reads a string of several lines after its opening quotes. Up to two quotes may stand in front of the
closing ones. -/
def readLong (quote : Char) (escapes : Bool) : (fuel : Nat) → (read : List Char) → Reader String
  | 0, _, _ => none
  | _ + 1, _, [] => none
  | fuel + 1, read, c :: cs =>
    if c = quote then
      let quotes := (c :: cs).takeWhile (· == quote)
      let rest := (c :: cs).dropWhile (· == quote)
      if quotes.length < 3 then readLong quote escapes fuel (quotes ++ read) rest
      else if quotes.length ≤ 5 then
        some (String.ofList (quotes.drop 3 ++ read).reverse, rest)
      else none
    else if c = '\\' ∧ escapes then
      match afterBreak? (skipBlanks cs) with
      | some rest => readLong quote escapes fuel read (skipLines fuel rest)
      | none =>
        match readEscape cs with
        | some (e, cs) => readLong quote escapes fuel (e :: read) cs
        | none => none
    else
      match afterBreak? (c :: cs) with
      | some cs => readLong quote escapes fuel ('\n' :: read) cs
      | none => if isPlain c then readLong quote escapes fuel (c :: read) cs else none

/-- Drops a line break in front. -/
def dropBreak (cs : List Char) : List Char := (afterBreak? cs).getD cs

/-- **Reads a string** in any notation. -/
def readText (fuel : Nat) : Reader String
  | '"' :: '"' :: '"' :: cs => readLong '"' true fuel [] (dropBreak cs)
  | '\'' :: '\'' :: '\'' :: cs => readLong '\'' false fuel [] (dropBreak cs)
  | '"' :: cs => readBasic fuel [] cs
  | '\'' :: cs => readLiteral fuel [] cs
  | _ => none

/-- Characters of keys without quotes. -/
def isBare (c : Char) : Bool := c.isAlphanum || c == '-' || c == '_'

/-- Reads one part of a key. -/
def readPart (fuel : Nat) : Reader String
  | '"' :: cs => readBasic fuel [] cs
  | '\'' :: cs => readLiteral fuel [] cs
  | cs =>
    let bare := cs.takeWhile isBare
    if bare.isEmpty then none else some (String.ofList bare, cs.drop bare.length)

/-- Parts of a key that are too many. -/
def partLimit : Nat := 80

/-- Reads the parts of a key onto those read already, kept last first. -/
def readParts : (fuel : Nat) → (read : List String) → Reader (List String)
  | 0, _, _ => none
  | fuel + 1, read, cs => do
    let (part, cs) ← readPart fuel (skipBlanks cs)
    match skipBlanks cs with
    | '.' :: cs => readParts fuel (part :: read) cs
    | cs => some ((part :: read).reverse, cs)

/-- **Reads a key**: the parts in front of it, and its own name. -/
def readKey (fuel : Nat) : Reader (List String × String) := fun cs => do
  let (parts, cs) ← readParts fuel [] cs
  if parts.length ≥ partLimit then none
  let name ← parts.getLast?
  return ((parts.dropLast, name), cs)

end RunnerDispatch.Toml

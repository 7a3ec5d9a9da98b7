import RunnerDispatch.Text.Alphanumeric
import RunnerDispatch.Text.Hex

/-!
# Patterns

A filter may ask for the value of a field by a regular expression. Here only its form is checked. The fields of a
directive end with the first closing brace, so that there is none in a pattern, and what an opening brace begins is
never finished.

* `PatternSyntax`: **which patterns a filter may use**. What is said of filters and of settings holds of every choice.
* `Pattern.Mode`: what flags change about the reading of a pattern.
* `Pattern.Escaped`: what an escape stands for.
* `Pattern.isWellFormed`: **groups are balanced and have different names, classes are closed and what is repeated
  exists**.
-/

namespace RunnerDispatch.Log

/-- **Which patterns a filter may use** for the value of a field. -/
class PatternSyntax where
  accepts : String → Bool

namespace Pattern

/-! ## Flags -/

/-- What flags change: whether blanks and comments are passed over, and whether bytes are matched in place of
characters. -/
structure Mode where
  spaced : Bool := false
  bytes : Bool := false

/-- Passes over blanks and over comments, which reach to the end of their line. -/
def skipBlanks : (inComment : Bool) → List Char → List Char
  | _, [] => []
  | true, c :: cs => skipBlanks (c != '\n') cs
  | false, c :: cs =>
    if c == '#' then skipBlanks true cs
    else if Text.isWhitespace c then skipBlanks false cs
    else c :: cs

/-- What is read next. -/
def Mode.next (mode : Mode) (cs : List Char) : List Char :=
  if mode.spaced then skipBlanks false cs else cs

/-- The mode with flags; those behind a hyphen are taken back. -/
def Mode.set (mode : Mode) (flags : List Char) : Mode :=
  let on := flags.takeWhile (· != '-')
  let off := flags.drop on.length
  { spaced := (mode.spaced || on.contains 'x') && !off.contains 'x'
    bytes := (mode.bytes || off.contains 'u') && !on.contains 'u' }

/-- Reads flags up to what ends them. None is given twice, and a hyphen takes something back. -/
def readFlags (cs : List Char) : Option (List Char × List Char) :=
  let flags := cs.takeWhile fun c => c != ':' && c != ')'
  if flags.all ("imsUuxR-".contains ·) && decide flags.Nodup && flags.getLast? != some '-' then
    some (flags, cs.drop flags.length)
  else none

/-! ## Escapes -/

/-- What an escape stands for. -/
inductive Escaped
  /-- A character, which may be written by its code in one byte. -/
  | char (c : Char) (byByte : Bool)
  /-- Digits, blanks or letters, or all but these. -/
  | kind (others : Bool)
  /-- A general category of characters. -/
  | category
  /-- A place in the text, which may be the border of a word. -/
  | place (ofWord : Bool)

/-- Reads the digits of a code behind its value so far. -/
def readCode (mode : Mode) : (digits : Nat) → (value : Nat) → List Char → Option (Char × List Char)
  | 0, value, cs => if value.isValidChar then some (Char.ofNat value, cs) else none
  | digits + 1, value, cs =>
    match mode.next cs with
    | [] => none
    | c :: cs => (Text.Hex.value? c).bind fun d => readCode mode digits (16 * value + d) cs

/-- The controls that have a letter. -/
def controls : List (Char × Char) :=
  [('a', '\x07'), ('t', '\t'), ('n', '\n'), ('v', '\x0b'), ('f', '\x0c'), ('r', '\r')]

/-- Reads what follows a backslash. Marks of ASCII stand for themselves. -/
def readEscape (mode : Mode) : List Char → Option (Escaped × List Char)
  | [] => none
  | 'x' :: cs => (readCode mode 2 0 cs).map fun (c, rest) => (.char c true, rest)
  | 'u' :: cs => (readCode mode 4 0 cs).map fun (c, rest) => (.char c false, rest)
  | 'U' :: cs => (readCode mode 8 0 cs).map fun (c, rest) => (.char c false, rest)
  | c :: cs =>
    if "pP".contains c then
      match mode.next cs with
      | [] => none
      | name :: rest => if "cClLmMnNpPsSzZ".contains name then some (.category, rest) else none
    else if "dsw".contains c then some (.kind false, cs)
    else if "DSW".contains c then some (.kind true, cs)
    else if "Az".contains c then some (.place false, cs)
    else if "bB<>".contains c then some (.place true, cs)
    else
      match controls.lookup c with
      | some control => some (.char control false, cs)
      | none => if c.toNat < 0x80 && !c.isAlphanum then some (.char c false, cs) else none

namespace Escaped

/-- Whether this can be matched. The borders of words are only known among bytes, and what is matched by bytes must
be text all the same. -/
def isKnown (mode : Mode) : Escaped → Bool
  | char c byByte => !(mode.bytes && byByte && 0x80 ≤ c.toNat)
  | kind others => !(mode.bytes && others)
  | category => !mode.bytes
  | place ofWord => !ofWord || mode.bytes

/-- Whether this can be in a class. -/
def isMember (mode : Mode) : Escaped → Bool
  | char c _ => !mode.bytes || c.toNat < 0x80
  | kind others => !(mode.bytes && others)
  | category => !mode.bytes
  | place _ => false

/-- Whether a range may lead from here to there. -/
def reaches : Escaped → Escaped → Bool
  | char low _, char high _ => low ≤ high
  | _, _ => false

end Escaped

/-! ## Classes -/

/-- Reads a member of a class. -/
def readMember (mode : Mode) : List Char → Option (Escaped × List Char)
  | [] => none
  | '\\' :: cs => readEscape mode cs
  | c :: cs => some (.char c false, cs)

/-- Passes over a member of a class, or over a range. A hyphen in front of a bracket or of a hyphen makes no range. -/
def skipMember (mode : Mode) (cs : List Char) : Option (List Char) := do
  let (low, rest) ← readMember mode cs
  let rest := mode.next rest
  if !low.isMember mode then none
  else
    match rest with
    | '-' :: more =>
      match mode.next more with
      | [] => none
      | c :: cs =>
        if c == ']' || c == '-' then some rest
        else do
          let (high, rest) ← readMember mode (c :: cs)
          if low.reaches high && high.isMember mode then some rest else none
    | _ => some rest

/-- The classes that have a name. -/
def classNames : List String :=
  ["alnum", "alpha", "ascii", "blank", "cntrl", "digit", "graph", "lower", "print", "punct", "space", "upper",
    "word", "xdigit"]

/-- Passes over the name of a class behind its bracket, and says whether all others are meant. -/
def skipClassName : List Char → Option (Bool × List Char)
  | ':' :: cs =>
    let others := cs.head? == some '^'
    let cs := if others then cs.tail else cs
    let name := cs.takeWhile (· != ':')
    match cs.drop name.length with
    | ':' :: ']' :: rest => if classNames.contains (String.ofList name) then some (others, rest) else none
    | _ => none
  | _ => none

/-- Passes over hyphens. -/
def skipHyphens (mode : Mode) : (fuel : Nat) → List Char → List Char
  | 0, cs => cs
  | fuel + 1, cs =>
    match mode.next cs with
    | '-' :: cs => skipHyphens mode fuel cs
    | cs => cs

/-- Passes over what stands for itself at the front of a class, hyphens or else a closing bracket, and says whether
all others are meant. -/
def openClass (mode : Mode) (cs : List Char) : Bool × List Char :=
  let cs := mode.next cs
  let others := cs.head? == some '^'
  let cs := if others then mode.next cs.tail else cs
  match cs with
  | ']' :: rest => (others, rest)
  | _ => (others, skipHyphens mode cs.length cs)

/-- Passes over the rest of a class. Of its part behind the last operation it is known whether it has bytes outside
ASCII, and what the operation makes of that; there must be none in the end. -/
def skipClass (mode : Mode) : (fuel : Nat) → (others : Bool) → (operation : Bool → Bool) → (beyond : Bool) →
    List Char → Option (List Char)
  | 0, _, _, _, _ => none
  | fuel + 1, others, operation, beyond, cs =>
    match mode.next cs with
    | [] => none
    | ']' :: rest => if mode.bytes && operation beyond != others then none else some rest
    | '[' :: rest =>
      match skipClassName rest with
      | some (named, rest) => skipClass mode fuel others operation (beyond || named) rest
      | none => do
        let (inner, rest) := openClass mode rest
        let rest ← skipClass mode fuel inner id false rest
        skipClass mode fuel others operation beyond rest
    | '&' :: '&' :: rest => skipClass mode fuel others (operation beyond && ·) false rest
    | '-' :: '-' :: rest => skipClass mode fuel others (operation beyond && !·) false rest
    | '~' :: '~' :: rest => skipClass mode fuel others (operation beyond != ·) false rest
    | cs => do
      let rest ← skipMember mode cs
      skipClass mode fuel others operation beyond rest

/-! ## Groups -/

/-- What opens behind a parenthesis: a group, or flags for what follows. -/
inductive Opening
  | group (mode : Mode) (name : Option (List Char)) (rest : List Char)
  | flags (mode : Mode) (rest : List Char)

/-- Reads the name of a group, which no other group has. -/
def openNamed (mode : Mode) (names : List (List Char)) (cs : List Char) : Option Opening :=
  let name := cs.takeWhile (· != '>')
  let isNameChar (c : Char) : Bool := Text.isAlphanumeric c || "_.[]".contains c
  match name, cs.drop name.length with
  | c :: _, _ :: rest =>
    if (Text.isAlphanumeric c && !c.isDigit || c == '_') && name.all isNameChar && !names.contains name then
      some (.group mode (some name) rest)
    else none
  | _, _ => none

/-- Reads what stands behind an opening parenthesis. -/
def opening (mode : Mode) (names : List (List Char)) (cs : List Char) : Option Opening :=
  match mode.next cs with
  | '?' :: 'P' :: '<' :: cs => openNamed mode names cs
  | '?' :: '<' :: cs => openNamed mode names cs
  | '?' :: cs => do
    let (flags, rest) ← readFlags cs
    match rest with
    | ':' :: rest => some (.group (mode.set flags) none rest)
    | ')' :: rest => if flags.isEmpty then none else some (.flags (mode.set flags) rest)
    | _ => none
  | cs => some (.group mode none cs)

/-! ## Patterns -/

/-- Drops the mark of a repetition that prefers few. -/
def skipLazy : List Char → List Char
  | '?' :: cs => cs
  | cs => cs

/-- Checks what is left. Known are the modes to go back to where the open groups end, the names so far, and whether
something to repeat is in front. -/
def check : (fuel : Nat) → (outer : List Mode) → Mode → (names : List (List Char)) → (repeatable : Bool) →
    List Char → Bool
  | 0, _, _, _, _, _ => false
  | fuel + 1, outer, mode, names, repeatable, cs =>
    match mode.next cs with
    | [] => outer.isEmpty
    | '(' :: cs =>
      match opening mode names cs with
      | some (.group inner name rest) => check fuel (mode :: outer) inner (name.toList ++ names) false rest
      | some (.flags mode rest) => check fuel outer mode names false rest
      | none => false
    | ')' :: cs =>
      match outer with
      | [] => false
      | mode :: outer => check fuel outer mode names true cs
    | '|' :: cs => check fuel outer mode names false cs
    | '[' :: cs =>
      let (others, cs) := openClass mode cs
      match skipClass mode fuel others id false cs with
      | some rest => check fuel outer mode names true rest
      | none => false
    | '\\' :: cs =>
      match readEscape mode cs with
      | some (escaped, rest) => escaped.isKnown mode && check fuel outer mode names true rest
      | none => false
    | c :: cs =>
      if c == '*' || c == '+' || c == '?' then repeatable && check fuel outer mode names true (skipLazy cs)
      else if c == '\x7b' then false
      else !(mode.bytes && c == '.') && check fuel outer mode names true cs

/-- **Whether a pattern is well formed.** -/
def isWellFormed (pattern : String) : Bool :=
  check (pattern.length + 1) [] {} [] false pattern.toList

end Pattern

/-- The patterns that are used. -/
instance : PatternSyntax := ⟨Pattern.isWellFormed⟩

end RunnerDispatch.Log

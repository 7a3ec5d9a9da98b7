import RunnerDispatch.Log.Pattern
import RunnerDispatch.Log.Record
import RunnerDispatch.Text.Alphanumeric
import RunnerDispatch.Bytes
import RunnerDispatch.Text.Natural

/-!
# Log filters

A filter is a list of directives with commas between them. A directive gives a level to the parts whose
path begins with its target, and may be narrowed to a span and to fields.

* `Directive.read?`: the directive of a text.
* `Filter.parse?`: **the filter of a text**, if each of its directives is one.
* `Filter.admits`: whether a record passes. Of the directives that apply, the one with the longest
  target decides; where none applies, nothing passes.
* `Filter.select`: the filter that is used; **a well-formed override wins over the settings**.
-/

namespace RunnerDispatch.Log

/-- A field that a directive asks for, and whether it asks for a value too. -/
structure FieldQuery where
  name : String
  hasValue : Bool
  deriving DecidableEq, Repr

/-- A level for some records; without a level it is for none. -/
structure Directive where
  target : Option String := none
  span : Option String := none
  fields : List FieldQuery := []
  level : Option Level := some .trace
  deriving DecidableEq, Repr

/-- The level of a name in any letter case or of a number; the level of `off` is none. -/
def levelOf? (s : String) : Option (Option Level) :=
  let levels : List (Option Level) :=
    [none, some .error, some .warn, some .info, some .debug, some .trace]
  match Text.natural? s with
  | some n => levels[n]?
  | none =>
    let names := ["off", "error", "warn", "info", "debug", "trace"]
    (names.zip levels).lookup s.toLower

/-- Whether a text writes a number. -/
def isNumber (s : String) : Bool :=
  let unsigned := match s.toList with
    | '+' :: cs => cs
    | '-' :: cs => cs
    | cs => cs
  let word := (String.ofList unsigned).toLower
  if word == "inf" || word == "infinity" || word == "nan" then true
  else
    let whole := unsigned.takeWhile Char.isDigit
    let rest := unsigned.drop whole.length
    let (fraction, rest) := match rest with
      | '.' :: cs => (cs.takeWhile Char.isDigit, cs.dropWhile Char.isDigit)
      | cs => ([], cs)
    let exponentFits := match rest with
      | [] => true
      | e :: cs =>
        let digits := match cs with
          | '+' :: cs => cs
          | '-' :: cs => cs
          | cs => cs
        (e == 'e' || e == 'E') && !digits.isEmpty && digits.all Char.isDigit
    !(whole ++ fraction).isEmpty && exponentFits

/-- Reads a field, whose value is a truth value, a number or a pattern. -/
def FieldQuery.read? [PatternSyntax] (s : String) : Option FieldQuery :=
  match s.splitOn "=" with
  | name :: value :: _ =>
    if value == "true" || value == "false" || isNumber value || PatternSyntax.accepts value then
      some ⟨name, true⟩
    else none
  | _ => some ⟨s, false⟩

namespace Directive

/-- What is being read of a directive, and where it began. -/
inductive Place
  | start
  | levelOrTarget (begin : Nat)
  | span (begin : Nat)
  | field (begin : Nat)
  | fields
  | target
  | level (begin : Nat)
  deriving DecidableEq, Repr

/-- The bytes of a text between two places. -/
def slice (source : Bytes) (first last : Nat) : Option String :=
  Bytes.toString? ((source.take last).drop first)

/-- The directive that consists of a level or of a target only. -/
def ofLevelOrTarget (d : Directive) (s : String) : Directive :=
  match levelOf? s with
  | some level => { d with level, target := none }
  | none => { d with level := some .trace, target := some s }

/-- The directive with a level; a level that is left out admits everything. -/
def withLevel? (d : Directive) (s : String) : Option Directive :=
  if s.isEmpty then some { d with level := some .trace }
  else (levelOf? s).map fun level => { d with level }

/-- Whether a directive may begin with this character. -/
def mayBegin (c : Char) : Bool := c == '-' || c == ':' || c == '_' || Text.isAlphanumeric c

/-- Takes in the character at a place. -/
def step [PatternSyntax] (source : Bytes) (i : Nat) (c : Char) : Directive × Place → Option (Directive × Place)
  | (d, .start) =>
    if c = '[' then some (d, .span (i + 1))
    else if mayBegin c then some (d, .levelOrTarget i)
    else none
  | (d, .levelOrTarget begin) =>
    if c = '=' then do
      let target ← slice source begin i
      return ({ d with target := some target }, .level (i + 1))
    else if c = '[' then do
      let target ← slice source begin i
      return ({ d with target := some target }, .span (i + 1))
    else some (d, .levelOrTarget begin)
  | (d, .span begin) =>
    if c = ']' then do
      let span ← slice source begin i
      return ({ d with span := some span }, .target)
    else if c = '\x7b' then do
      let span ← slice source begin i
      return ({ d with span := if span.isEmpty then none else some span }, .field (i + 1))
    else some (d, .span begin)
  | (d, .field begin) =>
    if c = '\x7d' then do
      let field ← slice source begin i
      if field.isEmpty then none
      let field ← FieldQuery.read? field
      return ({ d with fields := d.fields ++ [field] }, .fields)
    else some (d, .field begin)
  | (d, .fields) => if c = ']' then some (d, .target) else none
  | (d, .target) => if c = '=' then some (d, .level (i + 1)) else none
  | (d, .level begin) => some (d, .level begin)

/-- Takes in characters from a place on. -/
def steps [PatternSyntax] (source : Bytes) : (i : Nat) → Directive × Place → List Char → Option (Directive × Place)
  | _, state, [] => some state
  | i, state, c :: cs => do
    let state ← step source i c state
    steps source (i + (String.utf8EncodeChar c).length) state cs

/-- Drops the blanks around a text. -/
def trimmed (cs : List Char) : List Char :=
  ((cs.dropWhile Text.isWhitespace).reverse.dropWhile Text.isWhitespace).reverse

/-- **The directive of a text.** Blanks around it are passed over when places are counted, but not when
its parts are cut out. -/
def read? [PatternSyntax] (s : String) : Option Directive := do
  let source := Bytes.ofString s
  let (d, place) ← steps source 0 ({}, .start) (trimmed s.toList)
  match place with
  | .levelOrTarget begin => return d.ofLevelOrTarget (← slice source begin source.length)
  | .level begin => d.withLevel? (← slice source begin source.length)
  | .target => return d
  | _ => none

/-- Whether a directive decides on records outside spans. -/
def isPlain (d : Directive) : Bool := d.span.isNone && d.fields.all (!·.hasValue)

/-- Whether a directive applies to a record. -/
def appliesTo (d : Directive) (r : Record) : Bool :=
  (match d.target with
    | some t => t.isPrefixOf r.part.path
    | none => true) &&
  d.fields.all fun f => f.name == "message" || r.fields.any (·.1 == f.name)

/-- Compares how narrow two directives are: a longer target counts first, then more fields, and of as
many fields the later ones in the alphabet. -/
def compareNarrowness (a b : Directive) : Ordering :=
  let reach (d : Directive) : Nat := match d.target with
    | some t => t.utf8ByteSize + 1
    | none => 0
  (compare (reach a) (reach b)).then <|
    (compare a.fields.length b.fields.length).then <|
      compare (a.fields.map (·.name)) (b.fields.map (·.name))

end Directive

/-- Directives in the order given. -/
abbrev Filter := List Directive

namespace Filter

/-- **The filter of a text.** Empty directives are passed over. -/
def parse? [PatternSyntax] (s : String) : Option Filter :=
  ((s.splitOn ",").filter (!·.isEmpty)).mapM Directive.read?

/-- The narrower of two directives, the later one if they are alike. -/
def narrower (best : Option Directive) (d : Directive) : Option Directive :=
  match best with
  | none => some d
  | some b => if d.compareNarrowness b = .lt then some b else some d

/-- The directive that decides on a record. -/
def deciding (f : Filter) (r : Record) : Option Directive :=
  (f.filter fun d => d.isPlain && d.appliesTo r).foldl narrower none

/-- **Whether a record passes.** -/
def admits (f : Filter) (r : Record) : Bool :=
  match (f.deciding r).bind (·.level) with
  | some level => r.level.rank ≤ level.rank
  | none => false

/-- The filter in the settings is malformed. -/
structure Malformed where
  text : String
  deriving DecidableEq, Repr

def Malformed.message (e : Malformed) : String := "invalid log filter `" ++ e.text ++ "`"

/-- **The filter that is used**: the override if it is one, otherwise the one in the settings. -/
def select [PatternSyntax] (override : Option String) (text : String) : Except Malformed Filter :=
  match override.bind parse? with
  | some filter => .ok filter
  | none =>
    match parse? text with
    | some filter => .ok filter
    | none => .error ⟨text⟩

end Filter

end RunnerDispatch.Log

/-!
# Command lines

A command has options and maybe commands of its own, of which one must be named. An option is written
in full after two hyphens, or by its letter after one; its value is the next word, or stands behind an
equals sign, or behind the letter.

* `Grammar.parse`: **what a command line says**, or the first thing that is wrong with it.
* `Reading.settle`: a value that is due is asked for only when the next option or the end comes.
-/

namespace RunnerDispatch.CommandLine

/-- An option of a command. -/
structure Switch where
  long : String
  short : Option Char := none
  takesValue : Bool := true
  /-- Whether it may be given more than once. -/
  repeats : Bool := false
  deriving DecidableEq, Repr

/-- Asks for help, at every command. -/
def helpSwitch : Switch := { long := "help", short := some 'h', takesValue := false }

/-- The command that asks for help. -/
def helpCommand : String := "help"

/-- What a command line may say. -/
structure Grammar where
  switches : List Switch
  /-- The commands by name, each with its options. -/
  commands : List (String × List Switch) := []

/-- Why a command line is not carried out. -/
inductive Fault
  | unknownArgument
  | unknownCommand
  | missingValue
  | givenTwice
  | unwantedValue
  | missingCommand
  /-- Help was asked for. -/
  | help
  /-- Nothing was said at all. -/
  | nothingSaid
  deriving DecidableEq, Repr

def Fault.message : Fault → String
  | unknownArgument => "error: unexpected argument"
  | unknownCommand => "error: unrecognized command"
  | missingValue => "error: a value is required"
  | givenTwice => "error: an argument cannot be used multiple times"
  | unwantedValue => "error: unexpected value"
  | missingCommand => "error: a command is required"
  | help => "usage: [OPTIONS] [COMMAND]"
  | nothingSaid => "usage: [OPTIONS] <COMMAND>"

/-- The exit code of a command line that is not carried out. **To ask for help is no mistake.** -/
def Fault.exit : Fault → Nat
  | help => 0
  | _ => 2

/-- Options in the order given, each with its values. -/
abbrev Given := List (Switch × List String)

/-- How far a command line has been read. -/
structure Reading where
  given : Given := []
  /-- The latest option, whose value may stand in the next word. -/
  pending : Option (Switch × Option String) := none
  deriving DecidableEq, Repr

/-- Adds an option with its values. Only some may be given twice. -/
def put (s : Switch) (values : List String) (given : Given) : Except Fault Given :=
  if !s.repeats && given.any (·.1 == s) then .error .givenTwice
  else .ok (given ++ [(s, values)])

namespace Reading

/-- Whether the next word may be the value of an option. -/
def awaitsValue (r : Reading) : Bool :=
  match r.pending with
  | some (_, none) => true
  | _ => false

/-- Adds the latest option, which needs its value by now. -/
def settle (r : Reading) : Except Fault Reading :=
  match r.pending with
  | none => .ok r
  | some (_, none) => .error .missingValue
  | some (s, some value) => (put s [value] r.given).map fun given => { given }

/-- Takes in an option with the value attached to it, if there is one. -/
def take (r : Reading) (s : Switch) (attached : Option String) : Except Fault Reading := do
  match s.takesValue, attached with
  | true, some value =>
    let r ← r.settle
    return { given := ← put s [value] r.given }
  | true, none =>
    let r ← r.settle
    return { r with pending := some (s, none) }
  | false, some _ => throw .unwantedValue
  | false, none =>
    let r ← r.settle
    if s = helpSwitch then throw .help
    return { given := ← put s [] r.given }

end Reading

/-- Takes in letters behind a hyphen. Behind an option with a value all else is that value. -/
def takeLetters (switches : List Switch) (r : Reading) : List Char → Except Fault Reading
  | [] => .ok r
  | c :: cs =>
    match switches.find? (·.short == some c) with
    | none => .error .unknownArgument
    | some s =>
      if s.takesValue then
        match cs with
        | [] => r.take s none
        | '=' :: value => r.take s (some (String.ofList value))
        | value => r.take s (some (String.ofList value))
      else
        match r.take s none with
        | .ok r => takeLetters switches r cs
        | .error e => .error e

/-- Takes in an option in full with what stands behind an equals sign. -/
def takeLong (switches : List Switch) (r : Reading) (cs : List Char) : Except Fault Reading :=
  let name := cs.takeWhile (· != '=')
  let attached := match cs.drop name.length with
    | [] => none
    | _ :: value => some (String.ofList value)
  match switches.find? (·.long == String.ofList name) with
  | none => .error .unknownArgument
  | some s => r.take s attached

/-- What stands behind the options of a command: nothing, or a command with the words behind it. -/
abbrev Rest := Option (String × List String)

/-- Whether a word that is no option is out of place because a command was expected. -/
def misplaced (commands : List String) (behindHyphens : Bool) (word : String) : Fault :=
  if commands.isEmpty || (behindHyphens && commands.contains word) then .unknownArgument
  else .unknownCommand

/-- The answer to a request for help with commands. -/
def helpWith (commands : List String) : List String → Fault
  | [] => .help
  | [word] => if commands.contains word then .help else .unknownCommand
  | _ => .unknownCommand

/-- Reads the options of a command, and stops at a command of its own. -/
def readWords (switches : List Switch) (commands : List String) (r : Reading) :
    List String → Except Fault (Reading × Rest)
  | [] => .ok (r, none)
  | word :: words =>
    if !r.awaitsValue && commands.contains word then
      if word = helpCommand then .error (helpWith commands words) else .ok (r, some (word, words))
    else
      let asValue : Except Fault (Reading × Rest) :=
        match r.pending with
        | some (s, none) =>
          readWords switches commands { r with pending := some (s, some word) } words
        | _ => .error (misplaced commands false word)
      match word.toList with
      | ['-', '-'] =>
        match words with
        | [] => .ok (r, none)
        | next :: _ => .error (misplaced commands true next)
      | '-' :: '-' :: cs =>
        match takeLong switches r cs with
        | .ok r => readWords switches commands r words
        | .error e => .error e
      | '-' :: c :: cs =>
        match takeLetters switches r (c :: cs) with
        | .ok r => readWords switches commands r words
        | .error e => .error e
      | _ => asValue

/-- What a command line says. -/
structure Parsed where
  given : Given
  /-- The command that is named, with its options. -/
  command : Option (String × Given)

/-- The values of an option, in the order given. -/
def Given.values (given : Given) (long : String) : List String :=
  (given.filter (·.1.long == long)).flatMap (·.2)

/-- The value of an option that is given at most once. -/
def Given.value? (given : Given) (long : String) : Option String := (given.values long).head?

/-- Whether an option is given. -/
def Given.has (given : Given) (long : String) : Bool := given.any (·.1.long == long)

namespace Grammar

/-- The names of the commands, with the one that asks for help. -/
def commandNames (g : Grammar) : List String :=
  if g.commands.isEmpty then [] else g.commands.map (·.1) ++ [helpCommand]

/-- Reads the options of a command that has no commands of its own. -/
def parseLeaf (switches : List Switch) (words : List String) : Except Fault Given := do
  let (r, _) ← readWords (switches ++ [helpSwitch]) [] {} words
  return (← r.settle).given

/-- **What a command line says.** -/
def parse (g : Grammar) (words : List String) : Except Fault Parsed := do
  let (r, rest) ← readWords (g.switches ++ [helpSwitch]) g.commandNames {} words
  match rest with
  | some (name, words) =>
    let inner ← parseLeaf ((g.commands.lookup name).getD []) words
    return ⟨(← r.settle).given, some (name, inner)⟩
  | none =>
    let r ← r.settle
    if g.commands.isEmpty then return ⟨r.given, none⟩
    throw (if r.given.isEmpty then .nothingSaid else .missingCommand)

end Grammar

end RunnerDispatch.CommandLine

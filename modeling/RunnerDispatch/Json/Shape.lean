import RunnerDispatch.Json.Skip

/-!
# Reading values of a known shape

Values are read straight from the text into the types that are asked for, and the first fault on the
way is reported.

* `readTextAs`, `readTexts`: a string with a meaning, a list of strings.
* `readVariant`: one of several names; the record `{"name": null}` stands for a name too.
* `Shape`, `readRecord`: **a record holds each of its fields once**, in any order and among other
  members, which are passed over. The list of the fields' values in order stands for the record too.
* `readWhole`: a text that holds one value and nothing else.
-/

namespace RunnerDispatch.Json

open Text

/-- Reads what stands in place of the value that was expected. -/
def wrongType (expected : String) (s : Bytes) : Fault :=
  let found (r : Except Fault (Found × Bytes)) : Fault := match r with
    | .ok (f, s) => .before (.wrongType f expected) s
    | .error e => e
  let word (w : String) (f : Found) (s : Bytes) : Fault :=
    found ((readWord (Bytes.ofString w) s).map (f, ·))
  let number (positive : Bool) (s : Bytes) : Fault :=
    found ((readNumber positive s).map fun (n, s) => (n.found, s))
  match s with
  | [] => .onNext .endInValue []
  | b :: s =>
    if b = Ascii.byte 'n' then word "ull" .null s
    else if b = Ascii.byte 't' then word "rue" (.bool true) s
    else if b = Ascii.byte 'f' then word "alse" (.bool false) s
    else if b = Ascii.minus then number false s
    else if Ascii.isDigit b then number true (b :: s)
    else if b = Ascii.quote then found ((readText s).map fun (t, s) => (.text t, s))
    else if b = Ascii.openBracket then .before (.wrongType .list expected) (b :: s)
    else if b = Ascii.openBrace then .before (.wrongType .record expected) (b :: s)
    else .onNext .expectedValue (b :: s)

/-- **Reads a string that has a meaning.** -/
def readTextAs {α : Type} (expected : String) (meaning : String → Except Cause α) : Reader α :=
  fun s =>
    match skipBlank s with
    | [] => .error (.onNext .endInValue [])
    | b :: s =>
      if b ≠ Ascii.quote then .error (wrongType expected (b :: s))
      else
        match readText s with
        | .error e => .error e
        | .ok (t, s) =>
          match meaning t with
          | .ok a => .ok (a, s)
          | .error c => .error (.before c s)

/-- Reads a string. -/
def readString : Reader String := readTextAs "a string" .ok

/-- Closes a list. Also says where reading stands afterwards. -/
def closeList (s : Bytes) : Option Fault × Bytes :=
  match skipBlank s with
  | [] => (some (.onNext .endInList []), [])
  | b :: s =>
    if b = Ascii.closeBracket then (none, s)
    else if b = Ascii.comma then
      let s := skipBlank s
      let cause : Cause :=
        if peek s == some Ascii.closeBracket then .trailingComma else .trailingCharacters
      (some (.onNext cause s), s)
    else (some (.onNext .trailingCharacters (b :: s)), b :: s)

/-- Closes a record. Also says where reading stands afterwards. -/
def closeRecord (s : Bytes) : Option Fault × Bytes :=
  match skipBlank s with
  | [] => (some (.onNext .endInRecord []), [])
  | b :: s =>
    if b = Ascii.closeBrace then (none, s)
    else
      let cause : Cause := if b = Ascii.comma then .trailingComma else .trailingCharacters
      (some (.onNext cause (b :: s)), b :: s)

/-- Closes what was opened; **a loose fault is placed where closing ends**. -/
def conclude {α : Type} (close : Bytes → Option Fault × Bytes) (r : Except Fault (α × Bytes)) :
    Except Fault (α × Bytes) :=
  match r with
  | .ok (a, s) =>
    match close s with
    | (none, s) => .ok (a, s)
    | (some e, _) => .error e
  | .error (.loose c s) => .error (.before c (close s).2)
  | .error e => .error e

/-- Goes to the next item of a list, if there is one. -/
def nextItem (first : Bool) (s : Bytes) : Except Fault (Option Bytes) :=
  match skipBlank s with
  | [] => .error (.onNext .endInList [])
  | b :: s =>
    if b = Ascii.closeBracket then .ok none
    else if first then .ok (some (b :: s))
    else if b = Ascii.comma then
      match skipBlank s with
      | [] => .error (.onNext .endInValue [])
      | c :: s =>
        if c = Ascii.closeBracket then .error (.onNext .trailingComma (c :: s)) else .ok (some (c :: s))
    else .error (.onNext .expectedListCommaOrEnd (b :: s))

/-- Reads the name of the next member, if there is one. -/
def nextName (first : Bool) (s : Bytes) : Except Fault (Option (String × Bytes)) :=
  let name (s : Bytes) : Except Fault (Option (String × Bytes)) := (readText s).map some
  match skipBlank s with
  | [] => .error (.onNext .endInRecord [])
  | b :: s =>
    if b = Ascii.closeBrace then .ok none
    else if first then
      if b = Ascii.quote then name s else .error (.onNext .nameNotText (b :: s))
    else if b = Ascii.comma then
      match skipBlank s with
      | [] => .error (.onNext .endInValue [])
      | c :: s =>
        if c = Ascii.quote then name s
        else
          let cause : Cause := if c = Ascii.closeBrace then .trailingComma else .nameNotText
          .error (.onNext cause (c :: s))
    else .error (.onNext .expectedRecordCommaOrEnd (b :: s))

/-- Reads the items of a list onto those read already, kept last item first. -/
def readItems {α : Type} (item : Reader α) :
    (fuel : Nat) → (first : Bool) → (read : List α) → Reader (List α)
  | 0, _, _, s => .error (.before .endInList s)
  | fuel + 1, first, read, s =>
    match nextItem first s with
    | .error e => .error e
    | .ok none => .ok (read.reverse, s)
    | .ok (some s) =>
      match item s with
      | .ok (a, s) => readItems item fuel false (a :: read) s
      | .error e => .error e

/-- **Reads a list of strings.** -/
def readTexts (fuel : Nat) : Reader (List String) := fun s =>
  match skipBlank s with
  | [] => .error (.onNext .endInValue [])
  | b :: s =>
    if b = Ascii.openBracket then conclude closeList (readItems readString fuel true [] s)
    else .error (wrongType "a sequence" (b :: s))

/-- The choice of that name. -/
def chosen {α : Type} (choices : List (String × α)) (name : String) : Except Cause α :=
  match choices.find? (·.1 == name) with
  | some (_, a) => .ok a
  | none => .error (.unknownVariant name (choices.map (·.1)))

/-- Reads `null`. -/
def readNull (s : Bytes) : Except Fault Bytes :=
  match skipBlank s with
  | [] => .error (.onNext .endInValue [])
  | b :: s =>
    if b = Ascii.byte 'n' then readWord (Bytes.ofString "ull") s
    else .error (wrongType "unit" (b :: s))

/-- **Reads one of several names.** -/
def readVariant {α : Type} (choices : List (String × α)) : Reader α := fun s =>
  let name := readTextAs "variant identifier" (chosen choices)
  match skipBlank s with
  | [] => .error (.onNext .endInValue [])
  | b :: s =>
    if b = Ascii.quote then name (b :: s)
    else if b ≠ Ascii.openBrace then .error (.onNext .expectedValue (b :: s))
    else do
      let (a, s) ← name s
      let s ← readColon s
      let s ← readNull s
      match skipBlank s with
      | [] => .error (.before .endInRecord [])
      | c :: s => if c = Ascii.closeBrace then .ok (a, s) else .error (.before .expectedValue (c :: s))

/-- A field of a record that is collected in `σ`. -/
structure Field (σ : Type) where
  name : String
  isSet : σ → Bool
  read : (fuel : Nat) → σ → Reader σ

/-- A record of type `α`, collected in `σ`. -/
structure Shape (σ α : Type) where
  /-- How faults name it. -/
  title : String
  fields : List (Field σ)
  blank : σ
  /-- The record, or the name of the first field that is missing. -/
  complete : σ → Except String α

/-- How many elements, in words. -/
def elementCount (n : Nat) : String := toString n ++ (if n = 1 then " element" else " elements")

section

variable {σ α : Type}

/-- Reads the fields of a record that is given as a list. -/
def readPositional (shape : Shape σ α) (fuel : Nat) : (fields : List (Field σ)) → σ → Reader σ
  | [], st, s => .ok (st, s)
  | field :: fields, st, s =>
    let count := shape.fields.length - fields.length - 1
    match nextItem (count == 0) s with
    | .error e => .error e
    | .ok none =>
      .error (.loose (.wrongLength count
        (shape.title ++ " with " ++ elementCount shape.fields.length)) s)
    | .ok (some s) =>
      match field.read fuel st s with
      | .ok (st, s) => readPositional shape fuel fields st s
      | .error e => .error e

/-- Reads the members of a record. -/
def readMembers (shape : Shape σ α) : (fuel : Nat) → (first : Bool) → σ → Reader σ
  | 0, _, _, s => .error (.before .endInRecord s)
  | fuel + 1, first, st, s =>
    match nextName first s with
    | .error e => .error e
    | .ok none => .ok (st, s)
    | .ok (some (name, s)) =>
      match shape.fields.find? (·.name == name) with
      | some field =>
        if field.isSet st then .error (.loose (.duplicateMember name) s)
        else
          match readColon s with
          | .error e => .error e
          | .ok s =>
            match field.read fuel st s with
            | .ok (st, s) => readMembers shape fuel false st s
            | .error e => .error e
      | none =>
        match readColon s with
        | .error e => .error e
        | .ok s =>
          match skipValue fuel s with
          | .ok s => readMembers shape fuel false st s
          | .error e => .error e

/-- Completes a record whose members have been read. -/
def completed (shape : Shape σ α) (r : Except Fault (σ × Bytes)) : Except Fault (α × Bytes) :=
  match r with
  | .error e => .error e
  | .ok (st, s) =>
    match shape.complete st with
    | .ok a => .ok (a, s)
    | .error name => .error (.loose (.missingMember name) s)

/-- **Reads a record**, from its members or from a list of its fields. -/
def readRecord (shape : Shape σ α) (fuel : Nat) : Reader α := fun s =>
  match skipBlank s with
  | [] => .error (.onNext .endInValue [])
  | b :: s =>
    if b = Ascii.openBracket then
      conclude closeList (completed shape (readPositional shape fuel shape.fields shape.blank s))
    else if b = Ascii.openBrace then
      conclude closeRecord (completed shape (readMembers shape fuel true shape.blank s))
    else .error (wrongType shape.title (b :: s))

end

/-- **Reads a text that holds one value** and nothing else. -/
def readWhole {α : Type} (read : (fuel : Nat) → Reader α) (text : Bytes) : Except Fault α :=
  match read (fuelFor text) text with
  | .error e => .error e
  | .ok (a, s) =>
    match skipBlank s with
    | [] => .ok a
    | b :: s => .error (.onNext .trailingCharacters (b :: s))

end RunnerDispatch.Json

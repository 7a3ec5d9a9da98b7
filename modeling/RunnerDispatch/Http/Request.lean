import RunnerDispatch.Text.Ascii
import RunnerDispatch.Text.Natural

/-!
# Requests

* `Request.header?`: the first header of a name, in any letter case.
* `Request.readable?`: that header as a text, **unless a byte of it is not printable ASCII or a tab**.
* `Request.declaredLength?`: the length that a request declares for its body.
* `Request.path`: the path that a request asks for, of whatever form its target is.
-/

namespace RunnerDispatch.Http

/-- A request as it arrives. -/
structure Request where
  method : String
  target : String
  /-- Names with values; a name may repeat. -/
  headers : List (String × Bytes) := []
  body : Bytes := []
  deriving DecidableEq, Repr

namespace Request

/-- The first header of a name, in any letter case. -/
def header? (r : Request) (name : String) : Option Bytes :=
  (r.headers.find? fun h => h.1.toLower == name.toLower).map (·.2)

/-- Whether a byte is printable ASCII or a tab. -/
def isPrintable (b : UInt8) : Bool := b == Text.Ascii.tab || (0x20 ≤ b && b < 0x7F)

/-- The text of a header's value. -/
def textOf? (value : Bytes) : Option String :=
  if value.all isPrintable then Bytes.toString? value else none

/-- The first header of a name as a text. -/
def readable? (r : Request) (name : String) : Option String := (r.header? name).bind textOf?

/-- Lengths that a machine word holds are below this. -/
def lengthLimit : Nat := Nat.pow 2 64

/-- **The length that a request declares for its body.** What is no number declares nothing. -/
def declaredLength? (r : Request) : Option Nat :=
  ((r.readable? "content-length").bind Text.natural?).filter (· < lengthLimit)

/-- Drops what follows a query or fragment mark. -/
def dropQuery (cs : List Char) : List Char := cs.takeWhile fun c => c != '?' && c != '#'

/-- What stands behind `://`, if that occurs. -/
def behindScheme? : List Char → Option (List Char)
  | [] => none
  | c :: cs =>
    if [':', '/', '/'].isPrefixOf (c :: cs) then some (cs.drop 2) else behindScheme? cs

/-- **The path that a request asks for.** A target with a scheme and an authority has its path behind
them, and one with an authority alone has none. -/
def path (r : Request) : String :=
  match r.target.toList with
  | '/' :: cs => String.ofList (dropQuery ('/' :: cs))
  | ['*'] => "*"
  | cs =>
    match behindScheme? cs with
    | none => ""
    | some rest =>
      let behind := (dropQuery rest).dropWhile (· != '/')
      if behind.isEmpty then "/" else String.ofList behind

end Request

end RunnerDispatch.Http

import RunnerDispatch.Decimal.Shortest

/-!
# JSON values

* `Json.Value`: a value. A record keeps its members in order, and all of them when a name repeats.
* `Json.floatText`: **the fewest digits that read back**, without an exponent from 10⁻⁵ up to 10¹⁶.
* `Value.dropRepeats`: of members with one name, the last value in the place of the first.
-/

namespace RunnerDispatch.Json

/-- A JSON value. -/
inductive Value
  | null
  | bool (b : Bool)
  | integer (n : Int)
  | float (x : Float)
  | text (s : String)
  | list (items : List Value)
  | record (members : List (String × Value))
  deriving Inhabited

/-- The digits of a decimal with the point where it belongs. -/
def positional (digits : List Char) (exponent : Int) : String :=
  let point : Int := digits.length + exponent
  if 0 ≤ exponent then
    String.ofList (digits ++ List.replicate exponent.toNat '0') ++ ".0"
  else if 0 < point then
    String.ofList (digits.take point.toNat) ++ "." ++ String.ofList (digits.drop point.toNat)
  else "0." ++ String.ofList (List.replicate (-point).toNat '0' ++ digits)

/-- The digits of a decimal, one before the point, with the exponent after them. -/
def scientific (digits : List Char) (exponent : Int) : String :=
  let power : Int := digits.length + exponent - 1
  let mantissa := match digits with
    | [] => ""
    | [d] => String.ofList [d]
    | d :: ds => String.ofList (d :: '.' :: ds)
  mantissa ++ (if power < 0 then "e-" else "e+") ++ toString power.natAbs

/-- A number with a fraction or an exponent. -/
def floatText (x : Float) : String :=
  let decimal := (Decimal.Binary.ofFloat x).shortest
  let digits := (toString decimal.digits).toList
  let point : Int := digits.length + decimal.exponent
  let sign := if x.toBits ≥ 0x8000000000000000 then "-" else ""
  if decimal.digits = 0 then sign ++ "0.0"
  else if -5 < point ∧ point ≤ 16 then sign ++ positional digits decimal.exponent
  else sign ++ scientific digits decimal.exponent

/-- Replaces the value of a member, or adds the member at the end. -/
def putMember (name : String) (value : Value) :
    List (String × Value) → List (String × Value)
  | [] => [(name, value)]
  | (n, v) :: rest => if n = name then (n, value) :: rest else (n, v) :: putMember name value rest

mutual

/-- **Each member once**: of members with one name, the last value in the place of the first. -/
def Value.dropRepeats : Value → Value
  | .list items => .list (dropRepeatsItems items)
  | .record members => .record ((dropRepeatsMembers members).foldl (fun ms m => putMember m.1 m.2 ms) [])
  | v => v

/-- Drops repeats inside every item. -/
def dropRepeatsItems : List Value → List Value
  | [] => []
  | v :: vs => v.dropRepeats :: dropRepeatsItems vs

/-- Drops repeats inside every member. -/
def dropRepeatsMembers : List (String × Value) → List (String × Value)
  | [] => []
  | (name, v) :: ms => (name, v.dropRepeats) :: dropRepeatsMembers ms

end

end RunnerDispatch.Json

import RunnerDispatch.Text.Hex

/-!
# Identifiers of requests

* `identifier`: the identifier made from random bytes, **in five groups of digits that say it is random**.
-/

namespace RunnerDispatch.Http

/-- Writes the version, four, into the seventh byte and the variant into the ninth. -/
def markRandom (bytes : List UInt8) : List UInt8 :=
  (bytes.modify 6 fun b => b &&& 0x0F ||| 0x40).modify 8 fun b => b &&& 0x3F ||| 0x80

/-- Splits off groups of given lengths. -/
def groups : List Nat → List Char → List (List Char)
  | [], _ => []
  | n :: ns, cs => cs.take n :: groups ns (cs.drop n)

/-- **The identifier made from sixteen random bytes.** -/
def identifier (bytes : List UInt8) : String :=
  "-".intercalate ((groups [8, 4, 4, 4, 12] (Text.Hex.ofBytes (markRandom bytes))).map String.ofList)

end RunnerDispatch.Http

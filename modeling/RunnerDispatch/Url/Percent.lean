import RunnerDispatch.Text.Ascii
import RunnerDispatch.Text.Hex

/-!
# Percent encoding

* `encode`: characters that may not stand in a part of a URL, and all outside ASCII, become `%` and two
  capital digits for each byte.
* `decode`: the bytes of a text with such escapes.
-/

namespace RunnerDispatch.Url.Percent

/-- Controls, which are encoded everywhere. -/
def inAnyPart (c : Char) : Bool := c.toNat < 0x20 || c.toNat == 0x7F

/-- Characters that are encoded in a fragment. -/
def inFragment (c : Char) : Bool := inAnyPart c || " \"<>`".contains c

/-- Characters that are encoded in a path. -/
def inPath (c : Char) : Bool := inFragment c || "#?\x7b\x7d".contains c

/-- Characters that are encoded in a user name or a password. -/
def inCredentials (c : Char) : Bool := inPath c || "/:;=@[\\]^|".contains c

/-- Characters that are encoded in a query. -/
def inQuery (c : Char) : Bool := inAnyPart c || " \"#<>".contains c

/-- Characters that are encoded in the query of a special URL. -/
def inSpecialQuery (c : Char) : Bool := inQuery c || c == '\''

/-- A byte with a percent sign. -/
def escapeByte (b : UInt8) : List Char :=
  ['%', Text.Hex.capital (b.toNat / 16), Text.Hex.capital (b.toNat % 16)]

/-- One character, encoded if it is outside ASCII or one of those that are. -/
def encodeChar (encoded : Char → Bool) (c : Char) : List Char :=
  if c.toNat ≥ 0x80 || encoded c then (String.utf8EncodeChar c).flatMap escapeByte else [c]

/-- **A text as it stands in a part of a URL.** -/
def encode (encoded : Char → Bool) (cs : List Char) : List Char := cs.flatMap (encodeChar encoded)

/-- The byte of an escape. -/
def escaped? (a b : UInt8) : Option UInt8 := do
  let high ← Text.Ascii.hexValue? a
  let low ← Text.Ascii.hexValue? b
  return UInt8.ofNat (16 * high + low)

/-- **The bytes of a text with escapes.** A percent sign without two digits stands for itself. -/
def decode : Bytes → Bytes
  | [] => []
  | [b] => [b]
  | [b, c] => [b, c]
  | b :: c :: d :: rest =>
    if b = Text.Ascii.byte '%' then
      match escaped? c d with
      | some e => e :: decode rest
      | none => b :: decode (c :: d :: rest)
    else b :: decode (c :: d :: rest)

end RunnerDispatch.Url.Percent

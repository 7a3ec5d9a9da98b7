import Mathlib
import RunnerDispatch.Json.Skip

/-!
# The grammar of JSON

What a text may hold, and how it may be written, said without any reader. A rule relates the bytes before
something to the bytes behind it, so that rules follow each other without cutting the text into pieces.

* `Document`: what a text holds. **A string may have no content**, since what is passed over is not decoded.
* `Escape`, `Spells`: the inside of a string and the bytes it stands for, whatever escapes are used.
* `Passes`: the inside of a string that is only passed over.
* `Numeral`: a number.
* `Written`: a value, or what is left of the items of a list or of the members of a record.
* `Document.WrittenIn`: **a text holds a document**, with blanks wherever they may stand.
-/

namespace RunnerDispatch.Json

open Text
open String (utf8EncodeChar)

/-- What a JSON text holds. A string whose escapes or bytes make no text has no content. -/
inductive Document
  | null
  | bool (b : Bool)
  | number
  | text (content : Option String)
  | list (items : List Document)
  | record (members : List (Option String × Document))

namespace Document

/-- A string with its content. -/
def string (content : String) : Document := .text (some content)

/-- A record all of whose names have a content. -/
def object (members : List (String × Document)) : Document := .record (members.map fun m => (some m.1, m.2))

theorem string_inj {s t : String} : string s = string t ↔ s = t := by
  rw [string, string, text.injEq, Option.some.injEq]

theorem object_inj {ms ms' : List (String × Document)} : object ms = object ms' ↔ ms = ms' := by
  have hinj : Function.Injective fun m : String × Document => ((some m.1, m.2) : Option String × Document) := by
    rintro ⟨n, d⟩ ⟨n', d'⟩ h
    simpa using h
  rw [object, object, record.injEq, (List.map_injective_iff.2 hinj).eq_iff]

end Document

/-! ## Blanks -/

/-- Nothing but blanks stands in front of what is left. -/
inductive Blanks : Bytes → Bytes → Prop
  | none (s : Bytes) : Blanks s s
  | cons {b : UInt8} {s s' : Bytes} (hb : isBlank b = true) (h : Blanks s s') : Blanks (b :: s) s'

/-! ## Strings -/

/-- The escapes of one letter, and the characters they stand for. -/
def shortEscapes : List (UInt8 × Char) :=
  [(Ascii.quote, '"'), (Ascii.backslash, '\\'), (Ascii.slash, '/'), (Ascii.byte 'b', '\x08'),
    (Ascii.byte 'f', '\x0c'), (Ascii.byte 'n', '\n'), (Ascii.byte 'r', '\r'), (Ascii.byte 't', '\t')]

/-- Four hexadecimal digits write a code unit. -/
inductive FourDigits : ℕ → Bytes → Bytes → Prop
  | mk {a b c d : UInt8} {i j k l : ℕ} {s : Bytes} (ha : Ascii.hexValue? a = some i)
      (hb : Ascii.hexValue? b = some j) (hc : Ascii.hexValue? c = some k) (hd : Ascii.hexValue? d = some l) :
      FourDigits (((i * 16 + j) * 16 + k) * 16 + l) (a :: b :: c :: d :: s) s

/-- What may follow a backslash, and the character it stands for. A character beyond the first 65536 is
numbered by a **pair of surrogates**, which stand for nothing on their own. -/
inductive Escape : Char → Bytes → Bytes → Prop
  | short {b : UInt8} {c : Char} {s : Bytes} (h : (b, c) ∈ shortEscapes) : Escape c (b :: s) s
  | numbered {n : ℕ} {s s' : Bytes} (h : FourDigits n s s') (hn : n < 0xD800 ∨ 0xDFFF < n) :
      Escape (Char.ofNat n) (Ascii.byte 'u' :: s) s'
  | paired {high low : ℕ} {s t s' : Bytes} (hhigh : FourDigits high s (Ascii.backslash :: Ascii.byte 'u' :: t))
      (hlow : FourDigits low t s') (high_bounds : 0xD800 ≤ high ∧ high ≤ 0xDBFF)
      (low_bounds : 0xDC00 ≤ low ∧ low ≤ 0xDFFF) :
      Escape (Char.ofNat ((high - 0xD800) * 0x400 + (low - 0xDC00) + 0x10000)) (Ascii.byte 'u' :: s) s'

/-- Whether a byte stands for itself inside a string. -/
def IsPlain (b : UInt8) : Prop := b ≠ Ascii.quote ∧ b ≠ Ascii.backslash ∧ ¬ b < Ascii.space

/-- **The inside of a string, and the bytes of the text it stands for**, up to its closing quote. -/
inductive Spells : Bytes → Bytes → Bytes → Prop
  | close (s : Bytes) : Spells [] (Ascii.quote :: s) s
  | byte {b : UInt8} {content s s' : Bytes} (hb : IsPlain b) (h : Spells content s s') :
      Spells (b :: content) (b :: s) s'
  | escape {c : Char} {content s t s' : Bytes} (hc : Escape c s t) (h : Spells content t s') :
      Spells (utf8EncodeChar c ++ content) (Ascii.backslash :: s) s'

/-- The inside of a string that is passed over. **A surrogate need not be paired**, and the bytes need not
be a text. -/
inductive Passes : Bytes → Bytes → Prop
  | close (s : Bytes) : Passes (Ascii.quote :: s) s
  | byte {b : UInt8} {s s' : Bytes} (hb : IsPlain b) (h : Passes s s') : Passes (b :: s) s'
  | short {b : UInt8} {c : Char} {s s' : Bytes} (hc : (b, c) ∈ shortEscapes) (h : Passes s s') :
      Passes (Ascii.backslash :: b :: s) s'
  | numbered {n : ℕ} {s t s' : Bytes} (hn : FourDigits n s t) (h : Passes t s') :
      Passes (Ascii.backslash :: Ascii.byte 'u' :: s) s'

/-- A string with its quotes, and its content if it has one. -/
inductive Literal : Option String → Bytes → Bytes → Prop
  | text {content : String} {s s' : Bytes} (h : Spells (Bytes.ofString content) s s') :
      Literal (some content) (Ascii.quote :: s) s'
  | noText {s s' : Bytes} (h : Passes s s') (hno : ∀ content : String, ¬ Spells (Bytes.ofString content) s s') :
      Literal none (Ascii.quote :: s) s'

/-! ## Numbers -/

/-- Any number of decimal digits. -/
inductive Digits : Bytes → Bytes → Prop
  | none (s : Bytes) : Digits s s
  | cons {b : UInt8} {s s' : Bytes} (hb : Ascii.isDigit b = true) (h : Digits s s') : Digits (b :: s) s'

/-- At least one decimal digit. -/
inductive SomeDigits : Bytes → Bytes → Prop
  | mk {b : UInt8} {s s' : Bytes} (hb : Ascii.isDigit b = true) (h : Digits s s') : SomeDigits (b :: s) s'

/-- The digits of a whole number. **A zero in front stands alone.** -/
inductive Whole : Bytes → Bytes → Prop
  | zero (s : Bytes) : Whole (Ascii.byte '0' :: s) s
  | digits {b : UInt8} {s s' : Bytes} (hb : Ascii.isDigit b = true) (hzero : b ≠ Ascii.byte '0')
      (h : Digits s s') : Whole (b :: s) s'

/-- A point with the digits behind it, or neither. -/
inductive Fraction : Bytes → Bytes → Prop
  | none (s : Bytes) : Fraction s s
  | digits {s s' : Bytes} (h : SomeDigits s s') : Fraction (Ascii.dot :: s) s'

/-- A sign, or none. -/
inductive Sign : Bytes → Bytes → Prop
  | none (s : Bytes) : Sign s s
  | plus (s : Bytes) : Sign (Ascii.plus :: s) s
  | minus (s : Bytes) : Sign (Ascii.minus :: s) s

/-- The letter of an exponent with its sign and digits, or nothing. -/
inductive Exponent : Bytes → Bytes → Prop
  | none (s : Bytes) : Exponent s s
  | digits {b : UInt8} {s t s' : Bytes} (hb : b = Ascii.byte 'e' ∨ b = Ascii.byte 'E') (hsign : Sign s t)
      (h : SomeDigits t s') : Exponent (b :: s) s'

/-- A number after its sign. -/
inductive Unsigned : Bytes → Bytes → Prop
  | mk {s t u s' : Bytes} (hwhole : Whole s t) (hfraction : Fraction t u) (hexponent : Exponent u s') :
      Unsigned s s'

/-- **A number.** -/
inductive Numeral : Bytes → Bytes → Prop
  | positive {s s' : Bytes} (h : Unsigned s s') : Numeral s s'
  | negative {s s' : Bytes} (h : Unsigned s s') : Numeral (Ascii.minus :: s) s'

/-! ## Values -/

/-- What stands before an item: blanks, and a comma unless the item is the first. -/
inductive Gap : (first : Bool) → Bytes → Bytes → Prop
  | first {s s' : Bytes} (h : Blanks s s') : Gap true s s'
  | next {s t s' : Bytes} (h : Blanks s (Ascii.comma :: t)) (h' : Blanks t s') : Gap false s s'

/-- What can be written: a value, or what is left of the items of a list or of the members of a record. -/
inductive Part
  | value (d : Document)
  | items (first : Bool) (ds : List Document)
  | members (first : Bool) (ms : List (Option String × Document))

/-- **How it may be written.** -/
inductive Written : Part → Bytes → Bytes → Prop
  | null (s : Bytes) : Written (.value .null) (Bytes.ofString "null" ++ s) s
  | yes (s : Bytes) : Written (.value (.bool true)) (Bytes.ofString "true" ++ s) s
  | no (s : Bytes) : Written (.value (.bool false)) (Bytes.ofString "false" ++ s) s
  | number {s s' : Bytes} (h : Numeral s s') : Written (.value .number) s s'
  | text {content : Option String} {s s' : Bytes} (h : Literal content s s') :
      Written (.value (.text content)) s s'
  | list {ds : List Document} {s t s' : Bytes} (h : Written (.items true ds) s t)
      (hclose : Blanks t (Ascii.closeBracket :: s')) : Written (.value (.list ds)) (Ascii.openBracket :: s) s'
  | record {ms : List (Option String × Document)} {s t s' : Bytes} (h : Written (.members true ms) s t)
      (hclose : Blanks t (Ascii.closeBrace :: s')) : Written (.value (.record ms)) (Ascii.openBrace :: s) s'
  | noItems (first : Bool) (s : Bytes) : Written (.items first []) s s
  | item {first : Bool} {d : Document} {ds : List Document} {s t u s' : Bytes} (hgap : Gap first s t)
      (hd : Written (.value d) t u) (hds : Written (.items false ds) u s') :
      Written (.items first (d :: ds)) s s'
  | noMembers (first : Bool) (s : Bytes) : Written (.members first []) s s
  | member {first : Bool} {name : Option String} {d : Document} {ms : List (Option String × Document)}
      {s t u v w x s' : Bytes} (hgap : Gap first s t) (hname : Literal name t u)
      (hcolon : Blanks u (Ascii.colon :: v)) (hblanks : Blanks v w) (hd : Written (.value d) w x)
      (hms : Written (.members false ms) x s') : Written (.members first ((name, d) :: ms)) s s'

/-- **The text holds the document** and nothing else but blanks. -/
def Document.WrittenIn (d : Document) (text : Bytes) : Prop :=
  ∃ s t, Blanks text s ∧ Written (.value d) s t ∧ Blanks t []

end RunnerDispatch.Json

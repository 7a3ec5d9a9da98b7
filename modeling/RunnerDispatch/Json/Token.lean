import RunnerDispatch.Json.Fault
import RunnerDispatch.Text.Utf8

/-!
# Tokens of JSON

Reading takes the bytes that are left and returns what was read with the bytes after it.

* `skipBlank`: drops blanks.
* `readWord`: the rest of `null`, `true` or `false`.
* `readText`: a string after its opening quote, its escapes resolved. **A high surrogate has to be
  followed by a low one**, and the bytes have to be UTF-8.
* `skipText`: a string after its opening quote, checked only for where it ends.
-/

namespace RunnerDispatch.Json

open Text

/-- Reads something from the bytes that are left. -/
abbrev Reader (α : Type) := Bytes → Except Fault (α × Bytes)

/-- Whether a byte may stand between tokens. -/
def isBlank (b : UInt8) : Bool :=
  b == Ascii.space || b == Ascii.newline || b == Ascii.tab || b == Ascii.carriageReturn

/-- Drops the blanks in front. -/
def skipBlank (s : Bytes) : Bytes := s.dropWhile isBlank

/-- Reads the bytes of a word one by one. -/
def readWord : (word : Bytes) → Bytes → Except Fault Bytes
  | [], s => .ok s
  | _ :: _, [] => .error (.before .endInValue [])
  | w :: ws, b :: s => if b = w then readWord ws s else .error (.before .expectedWord s)

/-- The number written by four hexadecimal digits. -/
def fourDigits? (a b c d : UInt8) : Option Nat := do
  let a ← Ascii.hexValue? a
  let b ← Ascii.hexValue? b
  let c ← Ascii.hexValue? c
  let d ← Ascii.hexValue? d
  return ((a * 16 + b) * 16 + c) * 16 + d

/-- Reads the digits of a numbered escape. -/
def readFourDigits : Reader Nat
  | a :: b :: c :: d :: s =>
    match fourDigits? a b c d with
    | some n => .ok (n, s)
    | none => .error (.before .invalidEscape s)
  | _ => .error (.before .endInText [])

theorem length_readFourDigits {s s' : Bytes} {n : Nat} (h : readFourDigits s = .ok (n, s')) :
    s'.length < s.length := by
  unfold readFourDigits at h
  split at h
  · split at h
    · simp only [Except.ok.injEq, Prod.mk.injEq] at h
      obtain ⟨-, rfl⟩ := h
      simp only [List.length_cons]
      omega
    · simp at h
  · simp at h

/-- Whether a code unit opens a surrogate pair. -/
def isHighSurrogate (n : Nat) : Bool := 0xD800 ≤ n && n ≤ 0xDBFF

/-- Whether a code unit closes a surrogate pair. -/
def isLowSurrogate (n : Nat) : Bool := 0xDC00 ≤ n && n ≤ 0xDFFF

/-- The code point of a surrogate pair. -/
def pairedSurrogates (high low : Nat) : Nat := (high - 0xD800) * 0x400 + (low - 0xDC00) + 0x10000

/-- Reads the second half of a surrogate pair. -/
def readLowSurrogate (high : Nat) : Reader Char
  | [] => .error (.before .endInText [])
  | [b] => .error (.before (if b = Ascii.backslash then .endInText else .endOfEscape) [])
  | b :: u :: s =>
    if b ≠ Ascii.backslash then .error (.before .endOfEscape (u :: s))
    else if u ≠ Ascii.byte 'u' then .error (.before .endOfEscape s)
    else
      match readFourDigits s with
      | .error e => .error e
      | .ok (low, s) =>
        if isLowSurrogate low then .ok (Char.ofNat (pairedSurrogates high low), s)
        else .error (.before .loneSurrogate s)

theorem length_readLowSurrogate {high : Nat} {s s' : Bytes} {c : Char}
    (h : readLowSurrogate high s = .ok (c, s')) : s'.length < s.length := by
  unfold readLowSurrogate at h
  split at h <;> try simp at h
  split at h <;> try simp at h
  split at h <;> try simp at h
  split at h <;> try simp at h
  next hd =>
    split at h <;> simp at h
    have := length_readFourDigits hd
    simp only [List.length_cons, ← h.2]
    omega

/-- The character a letter stands for after a backslash. -/
def shortEscape? (b : UInt8) : Option Char :=
  if b = Ascii.quote then some '"'
  else if b = Ascii.backslash then some '\\'
  else if b = Ascii.slash then some '/'
  else if b = Ascii.byte 'b' then some '\x08'
  else if b = Ascii.byte 'f' then some '\x0c'
  else if b = Ascii.byte 'n' then some '\n'
  else if b = Ascii.byte 'r' then some '\r'
  else if b = Ascii.byte 't' then some '\t'
  else none

/-- Reads what follows a backslash. -/
def readEscape : Reader Char
  | [] => .error (.before .endInText [])
  | b :: s =>
    match shortEscape? b with
    | some c => .ok (c, s)
    | none =>
      if b ≠ Ascii.byte 'u' then .error (.before .invalidEscape s)
      else
        match readFourDigits s with
        | .error e => .error e
        | .ok (n, s) =>
          if isLowSurrogate n then .error (.before .loneSurrogate s)
          else if isHighSurrogate n then readLowSurrogate n s
          else .ok (Char.ofNat n, s)

theorem length_readEscape {s s' : Bytes} {c : Char} (h : readEscape s = .ok (c, s')) :
    s'.length < s.length := by
  unfold readEscape at h
  split at h <;> try simp at h
  split at h
  · simp at h
    simp [h.2]
  · split at h <;> try simp at h
    split at h <;> try simp at h
    next hd =>
      have := length_readFourDigits hd
      split at h <;> try simp at h
      split at h
      · have := length_readLowSurrogate h
        simp only [List.length_cons]
        omega
      · simp at h
        simp only [List.length_cons, ← h.2]
        omega

/-- The fault of a string, given from its beginning, that is not UTF-8. **It is placed after the first
byte that is not well formed.** -/
def notText (start : Bytes) : Fault :=
  .placed .invalidCodePoint (start.length - Utf8.validLength start - 1)

/-- Reads the rest of a string that began at `start` onto the bytes that are read already, kept last
byte first. -/
def readTextOnto (start read : Bytes) : Reader String
  | [] => .error (.before .endInText [])
  | b :: s =>
    if b = Ascii.quote then
      match Bytes.toString? read.reverse with
      | some t => .ok (t, s)
      | none => .error (notText start)
    else if b = Ascii.backslash then
      match _h : readEscape s with
      | .ok (c, s') => readTextOnto start ((String.utf8EncodeChar c).reverse ++ read) s'
      | .error e => .error e
    else if b < Ascii.space then .error (.before .controlInText s)
    else readTextOnto start (b :: read) s
termination_by s => s.length
decreasing_by
  · have := length_readEscape _h
    simp only [List.length_cons]
    omega
  · simp

/-- **Reads a string** after its opening quote. -/
def readText : Reader String := fun s => readTextOnto s [] s

/-- Passes over what follows a backslash. -/
def skipEscape : Bytes → Except Fault Bytes
  | [] => .error (.before .endInText [])
  | b :: s =>
    if (shortEscape? b).isSome then .ok s
    else if b ≠ Ascii.byte 'u' then .error (.before .invalidEscape s)
    else
      match readFourDigits s with
      | .ok (_, s) => .ok s
      | .error e => .error e

theorem length_skipEscape {s s' : Bytes} (h : skipEscape s = .ok s') : s'.length < s.length := by
  unfold skipEscape at h
  split at h <;> try simp at h
  split at h
  · simp at h
    simp [h]
  · split at h <;> try simp at h
    split at h <;> try simp at h
    next hd =>
      have := length_readFourDigits hd
      subst h
      simp only [List.length_cons]
      omega

/-- **Passes over a string** after its opening quote. -/
def skipText : Bytes → Except Fault Bytes
  | [] => .error (.before .endInText [])
  | b :: s =>
    if b = Ascii.quote then .ok s
    else if b = Ascii.backslash then
      match _h : skipEscape s with
      | .ok s' => skipText s'
      | .error e => .error e
    else if b < Ascii.space then .error (.before .controlInText (b :: s))
    else skipText s
termination_by s => s.length
decreasing_by
  · have := length_skipEscape _h
    simp only [List.length_cons]
    omega
  · simp

end RunnerDispatch.Json

import RunnerDispatch.Json.Reader
import RunnerDispatch.Proofs.Json.Text

/-!
# Members are read back

The readers of a record on what the printer writes, which is without blanks.

* `nextName_first`, `nextName_next`: the name of a member.
* `readTextAs_literal`, `readValue_literal`: a string as the value of a member.
-/

namespace RunnerDispatch.Json

open Text

variable {t : String} {s : Bytes}

theorem skipBlank_cons {b : UInt8} (hb : isBlank b = false) (s : Bytes) : skipBlank (b :: s) = b :: s :=
  List.dropWhile_cons_of_neg (by rw [hb]; decide)

theorem literal_append (t : String) (s : Bytes) :
    Bytes.ofString (textLiteral t) ++ s = Ascii.quote :: (spelled t.toList ++ Ascii.quote :: s) := by
  rw [ofString_textLiteral, List.cons_append, List.append_assoc, List.singleton_append]

theorem nextName_first (t : String) (s : Bytes) :
    nextName true (Bytes.ofString (textLiteral t) ++ s) = .ok (some (t, s)) := by
  rw [literal_append, nextName, skipBlank_cons (by decide)]
  simp only [readText_spelled]
  rfl

theorem nextName_next (t : String) (s : Bytes) :
    nextName false (Ascii.comma :: (Bytes.ofString (textLiteral t) ++ s)) = .ok (some (t, s)) := by
  rw [literal_append, nextName, skipBlank_cons (by decide)]
  simp only [skipBlank_cons (show isBlank Ascii.quote = false by decide), readText_spelled]
  rfl

theorem nextName_close (first : Bool) (s : Bytes) :
    nextName first (Ascii.closeBrace :: s) = .ok none := by
  rw [nextName, skipBlank_cons (by decide)]
  rfl

theorem readColon_colon (s : Bytes) : readColon (Ascii.colon :: s) = .ok s := by
  rw [readColon, skipBlank_cons (by decide)]
  rfl

theorem closeRecord_close (s : Bytes) : closeRecord (Ascii.closeBrace :: s) = (none, s) := by
  rw [closeRecord, skipBlank_cons (by decide)]
  rfl

/-- A string with a meaning is read back as what it means. -/
theorem readTextAs_literal {α : Type} {expected : String} {meaning : String → Except Cause α} {a : α}
    (h : meaning t = .ok a) (s : Bytes) :
    readTextAs expected meaning (Bytes.ofString (textLiteral t) ++ s) = .ok (a, s) := by
  rw [literal_append, readTextAs, skipBlank_cons (by decide)]
  simp only [readText_spelled, h]
  rfl

/-- A string is read back as a value of any kind. -/
theorem readValue_literal (fuel depth : Nat) (t : String) (s : Bytes) :
    readValue (fuel + 1) depth (Bytes.ofString (textLiteral t) ++ s) = .ok (.text t, s) := by
  rw [literal_append, readValue, skipBlank_cons (by decide)]
  simp only [readText_spelled]
  rfl

end RunnerDispatch.Json

import Mathlib
import RunnerDispatch.Text.Ascii

/-!
# Bytes of a text, character by character

* `Bytes.ofString_ofList`, `Bytes.ofString_append`: the bytes of a text are those of its characters.
* `Bytes.ofChar_ascii`, `Bytes.ofChar_high`: **an ASCII character is one byte, and every other has bytes
  that are no ASCII**, so that a reader may look for ASCII bytes without decoding.
* `Bytes.toString?_flatMap`: a text is read back from the bytes of its characters.
-/

namespace RunnerDispatch.Bytes

open String (utf8EncodeChar)

theorem ofString_ofList (cs : List Char) : ofString (String.ofList cs) = cs.flatMap utf8EncodeChar := by
  rw [ofString, String.toUTF8_eq_toByteArray, String.toByteArray_ofList, List.utf8Encode,
    List.toList_data_toByteArray]

theorem ofString_eq (s : String) : ofString s = s.toList.flatMap utf8EncodeChar := by
  rw [← ofString_ofList, String.ofList_toList]

@[simp] theorem ofString_append (s t : String) : ofString (s ++ t) = ofString s ++ ofString t := by
  rw [ofString_eq, ofString_eq, ofString_eq, String.toList_append, List.flatMap_append]

/-- Bytes that are read as a text are its bytes. -/
theorem ofString_of_toString? {bytes : Bytes} {s : String} (h : toString? bytes = some s) :
    ofString s = bytes := by
  unfold toString? String.fromUTF8? at h
  split at h
  · rename_i hvalid
    obtain rfl := Option.some.inj h
    rfl
  · exact (nomatch h)

/-- A text is read back from the bytes of its characters. -/
theorem toString?_flatMap (cs : List Char) :
    toString? (cs.flatMap utf8EncodeChar) = some (String.ofList cs) := by
  rw [← ofString_ofList, toString?_ofString]

/-- **An ASCII character is one byte.** -/
theorem ofChar_ascii {c : Char} (h : c.toNat < 0x80) : utf8EncodeChar c = [c.toUInt8] := by
  have h' : c.val.toNat ≤ 0x7f := Nat.le_of_lt_succ h
  rw [utf8EncodeChar]
  exact if_pos h'

/-- **The bytes of any other character are no ASCII.** -/
theorem ofChar_high {c : Char} (h : 0x80 ≤ c.toNat) : ∀ b ∈ utf8EncodeChar c, 0x80 ≤ b.toNat := by
  have h' : ¬ c.val.toNat ≤ 0x7f := Nat.not_le_of_lt h
  intro b hb
  simp only [utf8EncodeChar, h', if_false] at hb
  -- the low bits of each byte are a remainder, to which a marker is added
  split at hb
  · simp only [List.mem_cons, List.not_mem_nil, or_false] at hb
    rcases hb with rfl | rfl <;> simp only [UInt8.toNat_ofNat'] <;> omega
  split at hb
  · simp only [List.mem_cons, List.not_mem_nil, or_false] at hb
    rcases hb with rfl | rfl | rfl <;> simp only [UInt8.toNat_ofNat'] <;> omega
  · simp only [List.mem_cons, List.not_mem_nil, or_false] at hb
    rcases hb with rfl | rfl | rfl | rfl <;> simp only [UInt8.toNat_ofNat'] <;> omega

end RunnerDispatch.Bytes

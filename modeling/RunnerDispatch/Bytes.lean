/-!
# Bytes

A text on the wire is a list of bytes in UTF-8.

* `Bytes.ofString`, `Bytes.toString?`: the bytes of a text, and the text of bytes.
* `toString?_ofString`: **a text is read back from its bytes**.
-/

namespace RunnerDispatch

/-- Text or data as it is on the wire. -/
abbrev Bytes := List UInt8

namespace Bytes

/-- The bytes of a text. -/
def ofString (s : String) : Bytes := s.toUTF8.data.toList

/-- The text that bytes encode, if they are well-formed UTF-8. -/
def toString? (bytes : Bytes) : Option String := String.fromUTF8? ⟨bytes.toArray⟩

/-- **A text is read back from its bytes.** -/
theorem toString?_ofString (s : String) : toString? (ofString s) = some s := by
  have h : (⟨(ofString s).toArray⟩ : ByteArray) = s.toByteArray := by simp [ofString]
  simp [toString?, h, String.fromUTF8?, s.isValidUTF8, String.fromUTF8]

end Bytes

end RunnerDispatch

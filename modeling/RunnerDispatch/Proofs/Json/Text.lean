import RunnerDispatch.Json.Printer
import RunnerDispatch.Json.Token
import RunnerDispatch.Proofs.Bytes
import RunnerDispatch.Proofs.Json.Document

/-!
# Strings are read back

* `readTextOnto_escape`: a character is read back from the way it stands inside a string.
* `readText_spelled`: **every text is read back from its literal**, whatever follows.
-/

namespace RunnerDispatch.Json

open Text String

/-- The bytes of some characters as they stand inside a string. -/
def spelled (cs : List Char) : Bytes := (cs.flatMap escape).flatMap utf8EncodeChar

theorem ofString_textLiteral (s : String) :
    Bytes.ofString (textLiteral s) = Ascii.quote :: (spelled s.toList ++ [Ascii.quote]) := by
  have hquote : Bytes.ofString "\"" = [Ascii.quote] := by decide
  rw [textLiteral, Bytes.ofString_append, Bytes.ofString_append, hquote, Bytes.ofString_ofList]
  rfl

/-- Bytes that stand for themselves are read as they are. -/
theorem readTextOnto_plain (start : Bytes) {bs : Bytes} (h : ∀ b ∈ bs, IsPlain b) (read s : Bytes) :
    readTextOnto start read (bs ++ s) = readTextOnto start (bs.reverse ++ read) s := by
  induction bs generalizing read with
  | nil => rfl
  | cons b bs ih =>
    obtain ⟨hquote, hbackslash, hcontrol⟩ := h b List.mem_cons_self
    rw [List.cons_append, readTextOnto, if_neg hquote, if_neg hbackslash, if_neg hcontrol,
      ih fun c hc => h c (List.mem_cons_of_mem _ hc), List.reverse_cons, List.append_assoc]
    rfl

/-- An escape is read as the character it stands for. -/
theorem readTextOnto_backslash (start read : Bytes) {e s : Bytes} {c : Char}
    (h : readEscape (e ++ s) = .ok (c, s)) :
    readTextOnto start read (Ascii.backslash :: (e ++ s)) =
      readTextOnto start ((utf8EncodeChar c).reverse ++ read) s := by
  rw [readTextOnto, if_neg (by decide), if_pos rfl]
  split
  · rename_i c' s' h'
    obtain ⟨rfl, rfl⟩ : c' = c ∧ s' = s := by simpa using h'.symm.trans h
    rfl
  · rename_i e' h'
    rw [h] at h'
    cases h'

theorem hexValue?_digit : ∀ n < 16, Ascii.hexValue? (Ascii.byte (Hex.digit n)) = some n := by decide

/-- A numbered escape of a control is read as the control. -/
theorem readEscape_control {c : Char} (hc : c.toNat < 0x20) (s : Bytes) :
    readEscape ([Ascii.byte 'u', Ascii.byte '0', Ascii.byte '0', Ascii.byte (Hex.digit (c.toNat / 16)),
      Ascii.byte (Hex.digit (c.toNat % 16))] ++ s) = .ok (c, s) := by
  have hdigits : fourDigits? (Ascii.byte '0') (Ascii.byte '0') (Ascii.byte (Hex.digit (c.toNat / 16)))
      (Ascii.byte (Hex.digit (c.toNat % 16))) = some c.toNat := by
    have hzero : Ascii.hexValue? (Ascii.byte '0') = some 0 := by decide
    have hhigh := hexValue?_digit (c.toNat / 16) (by omega)
    have hlow := hexValue?_digit (c.toNat % 16) (by omega)
    simp only [fourDigits?, hzero, hhigh, hlow, Option.bind_eq_bind, Option.bind_some]
    exact congrArg some (by omega)
  have hshort : shortEscape? (Ascii.byte 'u') = none := by decide
  have hhigh : isHighSurrogate c.toNat = false := by simp [isHighSurrogate]; omega
  have hlow : isLowSurrogate c.toNat = false := by simp [isLowSurrogate]; omega
  simp only [List.cons_append, List.nil_append, readEscape, hshort, readFourDigits, hdigits, hhigh, hlow,
    ne_eq, not_true, if_false, Bool.false_eq_true, Char.ofNat_toNat]

/-- A short escape is read as the character it stands for. -/
theorem readTextOnto_short (start read s : Bytes) {x c : Char} (hx : x.toNat < 0x80)
    (h : shortEscape? x.toUInt8 = some c) :
    readTextOnto start read (['\\', x].flatMap utf8EncodeChar ++ s) =
      readTextOnto start ((utf8EncodeChar c).reverse ++ read) s := by
  have hbytes : ['\\', x].flatMap utf8EncodeChar = [Ascii.backslash, x.toUInt8] := by
    rw [List.flatMap_cons, List.flatMap_cons, Bytes.ofChar_ascii hx, Bytes.ofChar_ascii (by decide)]
    rfl
  rw [hbytes]
  refine readTextOnto_backslash start read (e := [x.toUInt8]) ?_
  rw [List.singleton_append, readEscape, h]

/-- A character that needs no escape has bytes that stand for themselves. -/
theorem isPlain_of_mem {c : Char} (hquote : c ≠ '"') (hbackslash : c ≠ '\\') (hcontrol : 0x20 ≤ c.toNat) :
    ∀ b ∈ utf8EncodeChar c, IsPlain b := by
  intro b hb
  by_cases hc : c.toNat < 0x80
  · rw [Bytes.ofChar_ascii hc, List.mem_singleton] at hb
    have hb' : b.toNat = c.toNat := by
      rw [hb, Char.toUInt8, UInt32.toNat_toUInt8]
      exact Nat.mod_eq_of_lt (Nat.lt_trans hc (by decide))
    have hchar : ∀ d : Char, b.toNat = d.toNat → c = d := fun d hd =>
      Char.toNat_inj.1 (hb'.symm.trans hd)
    refine ⟨fun h => hquote (hchar _ (by rw [h]; rfl)), fun h => hbackslash (hchar _ (by rw [h]; rfl)), ?_⟩
    rw [UInt8.lt_iff_toNat_lt, hb']
    exact Nat.not_lt_of_le hcontrol
  · have hhigh := Bytes.ofChar_high (Nat.le_of_not_lt hc) b hb
    refine ⟨?_, ?_, fun h => ?_⟩
    · rintro rfl
      exact absurd hhigh (by decide)
    · rintro rfl
      exact absurd hhigh (by decide)
    · have := UInt8.lt_iff_toNat_lt.1 h
      have : Ascii.space.toNat = 0x20 := rfl
      omega

/-- **A character is read back from the way it stands inside a string.** -/
theorem readTextOnto_escape (start read s : Bytes) (c : Char) :
    readTextOnto start read ((escape c).flatMap utf8EncodeChar ++ s) =
      readTextOnto start ((utf8EncodeChar c).reverse ++ read) s := by
  unfold escape
  iterate 7
    split
    · subst_vars
      exact readTextOnto_short start read s (by decide) (by decide)
  split
  · rename_i hcontrol
    have hascii : ∀ n < 16, (Hex.digit n).toNat < 0x80 := by decide
    simp only [List.flatMap_cons, List.flatMap_nil, Bytes.ofChar_ascii (hascii (c.toNat / 16) (by omega)),
      Bytes.ofChar_ascii (hascii (c.toNat % 16) (by omega))]
    exact readTextOnto_backslash start read (readEscape_control hcontrol s)
  · rename_i hquote hbackslash _ _ _ _ _ hcontrol
    rw [List.flatMap_singleton]
    exact readTextOnto_plain start (isPlain_of_mem hquote hbackslash (Nat.le_of_not_lt hcontrol)) read s

/-- **Every text is read back from its literal**, whatever follows. -/
theorem readText_spelled (t : String) (s : Bytes) :
    readText (spelled t.toList ++ Ascii.quote :: s) = .ok (t, s) := by
  have onto (start read : Bytes) (cs : List Char) (s : Bytes) :
      readTextOnto start read (spelled cs ++ s) =
        readTextOnto start ((cs.flatMap utf8EncodeChar).reverse ++ read) s := by
    induction cs generalizing read with
    | nil => rfl
    | cons c cs ih =>
      rw [spelled, List.flatMap_cons, List.flatMap_append, List.append_assoc, readTextOnto_escape,
        ← spelled, ih, List.flatMap_cons, List.reverse_append, List.append_assoc]
  rw [readText, onto, readTextOnto, if_pos rfl, List.append_nil, List.reverse_reverse,
    Bytes.toString?_flatMap, String.ofList_toList]

end RunnerDispatch.Json

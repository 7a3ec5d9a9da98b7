import RunnerDispatch.Json.Reader
import RunnerDispatch.Proofs.Json.Numeral

/-!
# Numbers are read as values

A number is read by the same steps by which it is passed over, whatever becomes of its digits.

* `Value.IsNumber`: the values that numbers are read as.
* `readNumber_ok`: **what is read as a number is one.**
* `readNumber_toDigits`: **a whole number is read from its decimal digits**, if it fits a machine word.
-/

namespace RunnerDispatch.Json

open Text

variable {s t : Bytes} {x : Float} {positive : Bool} {significand : ℕ} {exponent : ℤ}

theorem skipDigits_cons {b : UInt8} (hb : Ascii.isDigit b = true) : skipDigits (b :: s) = skipDigits s :=
  List.dropWhile_cons_of_pos hb

theorem skipDigits_cons_of_not {b : UInt8} (hb : ¬ Ascii.isDigit b = true) : skipDigits (b :: s) = b :: s :=
  List.dropWhile_cons_of_neg hb

/-! ## Numbers with a fraction or an exponent -/

theorem scaled_ok (h : scaled positive significand exponent s = .ok (x, t)) : s = t := by
  unfold scaled at h
  split at h
  · exact (Prod.mk.inj (Except.ok.inj h)).2
  · cases h

/-- Digits that no exponent has room for are left. -/
theorem skipDigits_exponentDigits (e : ℤ) (s : Bytes) : skipDigits (exponentDigits e s).2 = skipDigits s := by
  fun_induction exponentDigits e s with
  | case1 e => rfl
  | case2 e b s hb e' hlarge => exact (skipDigits_cons hb).symm
  | case3 e b s hb e' hlarge ih => exact ih.trans (skipDigits_cons hb).symm
  | case4 e b s hb => rfl

/-- An exponent that has room is read to its last digit. -/
theorem exponentDigits_some {e e' : ℤ} (h : exponentDigits e s = (some e', t)) : skipDigits s = t := by
  fun_induction exponentDigits e s with
  | case1 e => exact (Prod.mk.inj h).2
  | case2 e b s hb f hlarge => cases h
  | case3 e b s hb f hlarge ih => exact (skipDigits_cons hb).trans (ih h)
  | case4 e b s hb => exact (skipDigits_cons_of_not hb).trans (Prod.mk.inj h).2

/-- Reads the digits of an exponent. -/
def readPower (positive : Bool) (significand : ℕ) (start : ℤ) (up : Bool) : Reader Float
  | [] => .error (.before .endInValue [])
  | b :: s =>
    if ¬ Ascii.isDigit b then .error (.before .invalidNumber s)
    else
      match exponentDigits (Ascii.digitValue b) s with
      | (some e, s) => scaled positive significand (if up then start + e else start - e) s
      | (none, s) =>
        if significand ≠ 0 ∧ up then .error (.before .numberOutOfRange s)
        else .ok (signed positive 0, skipDigits s)

/-- An exponent is read behind its sign. -/
theorem exists_readPower (positive : Bool) (significand : ℕ) (start : ℤ) (s : Bytes) :
    ∃ up, readExponent positive significand start s = readPower positive significand start up (unsign s) := by
  by_cases hplus : ∃ u, s = Ascii.plus :: u
  · obtain ⟨u, rfl⟩ := hplus
    refine ⟨true, ?_⟩
    cases u <;> rfl
  by_cases hminus : ∃ u, s = Ascii.minus :: u
  · obtain ⟨u, rfl⟩ := hminus
    refine ⟨false, ?_⟩
    cases u <;> rfl
  · refine ⟨true, ?_⟩
    have hsame : unsign s = s := by
      unfold unsign
      split
      · exact absurd ⟨_, rfl⟩ hplus
      · exact absurd ⟨_, rfl⟩ hminus
      · rfl
    rw [hsame]
    unfold readExponent
    split
    rename_i up u hup
    split at hup
    · exact absurd ⟨_, rfl⟩ hplus
    · exact absurd ⟨_, rfl⟩ hminus
    · obtain ⟨rfl, rfl⟩ := Prod.mk.inj hup
      cases s <;> rfl

/-- **What is read as an exponent is passed over as one**, also where it is too great to matter. -/
theorem readExponent_ok (h : readExponent positive significand exponent s = .ok (x, t)) : skipExponent s = .ok t := by
  rw [skipExponent_ok_iff]
  obtain ⟨up, hup⟩ := exists_readPower positive significand exponent s
  rw [hup] at h
  cases hs : unsign s with
  | nil => rw [hs] at h; cases h
  | cons b u =>
    rw [hs, readPower] at h
    split at h
    · cases h
    rename_i hb
    rw [not_not] at hb
    refine ⟨hb, (skipDigits_cons hb).trans ?_⟩
    split at h
    · rename_i e v hdigits
      exact (exponentDigits_some hdigits).trans (scaled_ok h)
    · -- the digits for which there is no room are passed over without being read
      rename_i v hdigits
      split at h
      · cases h
      · have hrest := skipDigits_exponentDigits (Ascii.digitValue b) u
        rw [hdigits] at hrest
        exact hrest.symm.trans (Prod.mk.inj (Except.ok.inj h)).2

theorem finishFloat_ok (h : finishFloat positive significand exponent s = .ok (x, t)) : skipRest s = .ok t := by
  unfold finishFloat at h
  unfold skipRest
  split at h
  · rename_i hnext
    rw [if_pos hnext]
    exact readExponent_ok h
  · rename_i hnext
    rw [if_neg hnext, scaled_ok h]

theorem fractionDigits_snd (m : ℕ) (e : ℤ) (s : Bytes) : (fractionDigits m e s).2.2 = skipDigits s := by
  fun_induction fractionDigits m e s with
  | case1 m e => rfl
  | case2 m e b s hb m' hlarge => exact (skipDigits_cons hb).symm
  | case3 m e b s hb m' hlarge ih => exact ih.trans (skipDigits_cons hb).symm
  | case4 m e b s hb => exact (skipDigits_cons_of_not hb).symm

theorem readFraction_ok (h : readFraction positive significand exponent s = .ok (x, t)) :
    skipFraction s = .ok t := by
  have hskip := fractionDigits_snd significand exponent s
  rw [skipFraction_eq_skipRest]
  unfold readFraction at h
  split at h
  · cases h
  · rename_i hnext
    rw [if_pos (not_not.1 hnext), ← hskip]
    exact finishFloat_ok h

/-- Passes over what may follow the digits of a whole number. -/
def skipTail (s : Bytes) : Except Fault Bytes :=
  if peek s == some Ascii.dot then skipFraction s.tail else skipRest s

theorem readLong_ok (h : readLong positive significand exponent s = .ok (x, t)) : skipTail (skipDigits s) = .ok t := by
  fun_induction readLong positive significand exponent s with
  | case1 e =>
    rw [← scaled_ok h]
    rfl
  | case2 e b s hb ih => exact (congrArg skipTail (skipDigits_cons hb)).trans (ih h)
  | case3 e s hb => exact readFraction_ok h
  | case4 e b s hb hdot =>
    rw [skipDigits_cons_of_not hb, skipTail, if_neg (by simpa [peek] using hdot)]
    exact finishFloat_ok h

/-! ## Numbers as values -/

/-- A number. -/
inductive Value.IsNumber : Value → Prop
  | integer (n : ℤ) : IsNumber (.integer n)
  | float (x : Float) : IsNumber (.float x)

variable {v : Value} {n : ℕ}

theorem isNumber_wholeNumber (positive : Bool) (n : ℕ) : (wholeNumber positive n).IsNumber := by
  unfold wholeNumber
  split
  · exact .integer n
  · split
    · exact .float _
    · exact .integer _

theorem asFloat_ok {r : Except Fault (Float × Bytes)} (h : asFloat r = .ok (v, t)) :
    v.IsNumber ∧ ∃ x, r = .ok (x, t) := by
  cases r with
  | error e => cases h
  | ok r =>
    obtain ⟨rfl, rfl⟩ := Prod.mk.inj (Except.ok.inj h)
    exact ⟨.float _, r.1, rfl⟩

theorem finishNumber_ok (h : finishNumber positive n s = .ok (v, t)) : v.IsNumber ∧ skipTail s = .ok t := by
  unfold finishNumber at h
  unfold skipTail
  split at h
  · rename_i hdot
    obtain ⟨hv, x, hx⟩ := asFloat_ok h
    rw [if_pos hdot]
    exact ⟨hv, readFraction_ok hx⟩
  rename_i hdot
  rw [if_neg hdot, skipRest]
  split at h
  · rename_i hnext
    obtain ⟨hv, x, hx⟩ := asFloat_ok h
    rw [if_pos hnext]
    exact ⟨hv, readExponent_ok hx⟩
  · rename_i hnext
    obtain ⟨rfl, rfl⟩ := Prod.mk.inj (Except.ok.inj h)
    rw [if_neg hnext]
    exact ⟨isNumber_wholeNumber positive n, rfl⟩

theorem readDigits_ok (h : readDigits positive n s = .ok (v, t)) :
    v.IsNumber ∧ skipTail (skipDigits s) = .ok t := by
  fun_induction readDigits positive n s with
  | case1 n =>
    obtain ⟨rfl, rfl⟩ := Prod.mk.inj (Except.ok.inj h)
    exact ⟨isNumber_wholeNumber positive n, rfl⟩
  | case2 n b s hb m hlarge =>
    obtain ⟨hv, x, hx⟩ := asFloat_ok h
    exact ⟨hv, readLong_ok hx⟩
  | case3 n b s hb m hlarge ih =>
    obtain ⟨hv, hskip⟩ := ih h
    exact ⟨hv, (congrArg skipTail (skipDigits_cons hb)).trans hskip⟩
  | case4 n b s hb =>
    rw [skipDigits_cons_of_not hb]
    exact finishNumber_ok h

/-- **What is read as a number is one.** -/
theorem readNumber_ok (h : readNumber positive s = .ok (v, t)) : v.IsNumber ∧ Unsigned s t := by
  cases s with
  | nil => cases h
  | cons b s =>
    have hskip : v.IsNumber ∧ skipNumber (b :: s) = .ok t := by
      rw [skipNumber_cons]
      rw [readNumber] at h
      split at h
      · cases h
      rename_i hb
      rw [if_neg hb]
      split at h
      · rename_i hzero
        split at h
        · cases h
        · rename_i hnext
          rw [if_neg fun h => hnext h.2]
          simp only [hzero, if_true]
          exact finishNumber_ok h
      · rename_i hzero
        rw [if_neg fun h => hzero h.1]
        simp only [hzero, if_false]
        exact readDigits_ok h
    exact ⟨hskip.1, unsigned_of_skipNumber hskip.2⟩

/-! ## Whole numbers -/

/-- More digits make no number less. -/
theorem le_ofDigitChars (ds : List Char) (n : ℕ) : n ≤ Nat.ofDigitChars 10 ds n := by
  induction ds generalizing n with
  | nil => exact le_rfl
  | cons d ds ih =>
    rw [Nat.ofDigitChars_cons]
    have h := ih (10 * n + (d.toNat - '0'.toNat))
    omega

theorem code_isDigit {d : Char} (h : d.isDigit = true) : 0x30 ≤ d.toNat ∧ d.toNat ≤ 0x39 := by
  simpa [Char.isDigit, UInt32.le_iff_toNat_le] using h

/-- A digit is a byte of its value. -/
theorem digit_toUInt8 {d : Char} (h : d.isDigit = true) :
    Ascii.isDigit d.toUInt8 = true ∧ Ascii.digitValue d.toUInt8 = d.toNat - '0'.toNat := by
  have hzero : '0'.toNat = 0x30 := rfl
  have hbounds := code_isDigit h
  have hbyte : d.toUInt8.toNat = d.toNat := by
    have hmod : d.toUInt8.toNat = d.toNat % 256 := UInt32.toNat_toUInt8 d.val
    omega
  constructor
  · simp only [Ascii.isDigit, Bool.and_eq_true, decide_eq_true_eq, UInt8.le_iff_toNat_le, hbyte]
    exact hbounds
  · rw [Ascii.digitValue, hbyte, hzero]

/-- A whole number ends where nothing follows that belongs to it. -/
theorem finishNumber_eq (hends : Ends s) : finishNumber positive n s = .ok (wholeNumber positive n, s) := by
  have hdot : (peek s == some Ascii.dot) = false := by
    rw [beq_eq_false_iff_ne]
    exact fun hdot => (hends _ hdot).2.1 rfl
  rw [finishNumber, hdot, hends.exponentNext]
  rfl

/-- **Digits are read onto those read already**, as long as the number fits. -/
theorem readDigits_append {ds : List Char} (hds : ∀ d ∈ ds, d.isDigit = true)
    (hsmall : Nat.ofDigitChars 10 ds n ≤ maxSignificand) (hends : Ends s) :
    readDigits positive n (ds.map Char.toUInt8 ++ s) = .ok (wholeNumber positive (Nat.ofDigitChars 10 ds n), s) := by
  induction ds generalizing n with
  | nil =>
    cases s with
    | nil => rfl
    | cons b s =>
      have hb : ¬ Ascii.isDigit b = true := Bool.eq_false_iff.1 (hends b rfl).1
      rw [List.map_nil, List.nil_append, readDigits, if_neg hb]
      exact finishNumber_eq hends
  | cons d ds ih =>
    obtain ⟨hd, hds⟩ := List.forall_mem_cons.1 hds
    obtain ⟨hdigit, hvalue⟩ := digit_toUInt8 hd
    rw [Nat.ofDigitChars_cons] at hsmall ⊢
    have hle := le_ofDigitChars ds (10 * n + (d.toNat - '0'.toNat))
    have hnext : n * 10 + Ascii.digitValue d.toUInt8 = 10 * n + (d.toNat - '0'.toNat) := by
      rw [hvalue, Nat.mul_comm]
    rw [List.map_cons, List.cons_append, readDigits, if_pos hdigit]
    simp only [hnext]
    rw [if_neg (by omega)]
    exact ih hds hsmall

/-- The first digit of a positive number is no zero. -/
theorem exists_toDigits (hn : 0 < n) : ∃ d ds, Nat.toDigits 10 n = d :: ds ∧ '0'.toNat < d.toNat := by
  induction n using Nat.strong_induction_on with
  | _ n ih =>
    by_cases hsmall : n < 10
    · refine ⟨n.digitChar, [], Nat.toDigits_of_lt_base hsmall, ?_⟩
      interval_cases n <;> decide
    · obtain ⟨d, ds, hds, hd⟩ := ih (n / 10) (by omega) (by omega)
      refine ⟨d, ds ++ [(n % 10).digitChar], ?_, hd⟩
      rw [Nat.toDigits_of_base_le (by decide) (by omega), hds, List.cons_append]

/-- **A number is read from its decimal digits.** -/
theorem readNumber_toDigits (positive : Bool) (hn : n ≤ maxSignificand) (hends : Ends s) :
    readNumber positive ((Nat.toDigits 10 n).map Char.toUInt8 ++ s) = .ok (wholeNumber positive n, s) := by
  have hvalue : Nat.ofDigitChars 10 (Nat.toDigits 10 n) 0 = n := Nat.ofDigitChars_ten_toDigits
  have hdigits : ∀ d ∈ Nat.toDigits 10 n, d.isDigit = true := fun d hd =>
    Nat.isDigit_of_mem_toDigits (by decide) (by decide) hd
  rcases Nat.eq_zero_or_pos n with rfl | hpos
  · -- a zero stands alone
    have hnext := hends.digitNext
    rw [Nat.toDigits_of_lt_base (by decide), List.map_singleton, List.singleton_append, readNumber,
      if_neg (by decide), if_pos (by decide), hnext, if_neg Bool.false_ne_true]
    exact finishNumber_eq hends
  · obtain ⟨d, ds, hds, hlarge⟩ := exists_toDigits hpos
    rw [hds, List.forall_mem_cons] at hdigits
    rw [hds, Nat.ofDigitChars_cons, Nat.mul_zero, Nat.zero_add] at hvalue
    obtain ⟨hdigit, hfirst⟩ := digit_toUInt8 hdigits.1
    have hnonzero : Ascii.digitValue d.toUInt8 ≠ 0 := by
      rw [hfirst]
      omega
    rw [hds, List.map_cons, List.cons_append, readNumber, if_neg (not_not.2 hdigit), if_neg hnonzero, hfirst,
      readDigits_append hdigits.2 (by rwa [hvalue]) hends, hvalue]

end RunnerDispatch.Json

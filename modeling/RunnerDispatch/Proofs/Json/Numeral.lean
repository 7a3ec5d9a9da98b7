import RunnerDispatch.Proofs.Json.Document

/-!
# Numbers are passed over to their last character

Where a number ends is seen from what follows it only, so a number is passed over as a whole if what follows
cannot belong to it.

* `Ends`: what follows belongs to no number.
* `skipNumber_eq`: **a number is passed over as a whole.**
* `unsigned_of_skipNumber`: what is passed over is a number.
-/

namespace RunnerDispatch.Json

open Text

variable {s s' t u : Bytes} {b : UInt8}

/-- What follows belongs to no number. -/
def Ends (s : Bytes) : Prop :=
  ∀ b, peek s = some b → Ascii.isDigit b = false ∧ b ≠ Ascii.dot ∧ b ≠ Ascii.byte 'e' ∧ b ≠ Ascii.byte 'E'

theorem ends_cons (h : Ascii.isDigit b = false ∧ b ≠ Ascii.dot ∧ b ≠ Ascii.byte 'e' ∧ b ≠ Ascii.byte 'E') :
    Ends (b :: s) := by
  intro c hc
  obtain rfl := Option.some.inj hc
  exact h

/-- Blanks end a number. -/
theorem Blanks.ends (h : Blanks s t) (ht : Ends t) : Ends s := by
  cases h with
  | none => exact ht
  | @cons b s _ hb h =>
    refine ends_cons ?_
    simp only [isBlank, Bool.or_eq_true, beq_iff_eq] at hb
    rcases hb with ((rfl | rfl) | rfl) | rfl <;> decide

/-! ## Digits -/

theorem digitNext_cons : digitNext (b :: s) = Ascii.isDigit b := rfl

theorem digits_skipDigits (s : Bytes) : Digits s (skipDigits s) := by
  induction s with
  | nil => exact .none _
  | cons b s ih =>
    by_cases hb : Ascii.isDigit b = true
    · rw [skipDigits, List.dropWhile_cons_of_pos hb]
      exact .cons hb ih
    · rw [skipDigits, List.dropWhile_cons_of_neg hb]
      exact .none _

/-- Digits are passed over to the last. -/
theorem skipDigits_eq (h : Digits s t) (ht : digitNext t = false) : skipDigits s = t := by
  induction h with
  | none s =>
    cases s with
    | nil => rfl
    | cons b s => exact List.dropWhile_cons_of_neg (by rw [← digitNext_cons, ht]; decide)
  | cons hb h ih => exact (List.dropWhile_cons_of_pos hb).trans (ih ht)

/-- Where there is a digit, there are some digits. -/
theorem someDigits_skipDigits (h : digitNext s = true) : SomeDigits s (skipDigits s) := by
  cases s with
  | nil => cases h
  | cons b s =>
    rw [digitNext_cons] at h
    rw [skipDigits, List.dropWhile_cons_of_pos h]
    exact .mk h (digits_skipDigits s)

theorem SomeDigits.skipDigits_eq (h : SomeDigits s t) (ht : digitNext t = false) :
    digitNext s = true ∧ skipDigits s = t := by
  obtain ⟨hb, h⟩ := h
  exact ⟨hb, Json.skipDigits_eq (.cons hb h) ht⟩

theorem Ends.digitNext (h : Ends s) : digitNext s = false := by
  cases s with
  | nil => rfl
  | cons b s => exact (h b rfl).1

theorem Ends.exponentNext (h : Ends s) : exponentNext s = false := by
  cases s with
  | nil => rfl
  | cons b s =>
    obtain ⟨-, -, he, hE⟩ := h b rfl
    simp only [Json.exponentNext, peek, Bool.or_eq_false_iff, beq_eq_false_iff_ne, ne_eq, Option.some.injEq]
    exact ⟨he, hE⟩

theorem exponentNext_iff :
    exponentNext s = true ↔ ∃ b t, s = b :: t ∧ (b = Ascii.byte 'e' ∨ b = Ascii.byte 'E') := by
  cases s with
  | nil => exact ⟨(nomatch ·), fun ⟨_, _, h, _⟩ => (nomatch h)⟩
  | cons b s =>
    simp only [exponentNext, peek, Bool.or_eq_true, beq_iff_eq, Option.some.injEq, List.cons.injEq]
    constructor
    · exact fun h => ⟨b, s, ⟨rfl, rfl⟩, h⟩
    · rintro ⟨_, _, ⟨rfl, rfl⟩, h⟩
      exact h

/-! ## Exponents -/

/-- Drops a sign. -/
def unsign : Bytes → Bytes
  | Ascii.plus :: s => s
  | Ascii.minus :: s => s
  | s => s

theorem sign_unsign (s : Bytes) : Sign s (unsign s) := by
  unfold unsign
  split
  · exact .plus _
  · exact .minus _
  · exact .none _

theorem unsign_eq (h : Sign s t) (ht : digitNext t = true) : unsign s = t := by
  cases h with
  | none =>
    unfold unsign
    split
    · exact absurd ht (by rw [digitNext_cons]; decide)
    · exact absurd ht (by rw [digitNext_cons]; decide)
    · rfl
  | plus | minus => rfl

/-- Passes over at least one digit. -/
def skipSomeDigits : Bytes → Except Fault Bytes
  | [] => .error (.before .invalidNumber [])
  | b :: s => if Ascii.isDigit b then .ok (skipDigits s) else .error (.before .invalidNumber s)

theorem skipExponent_eq_skipSomeDigits (s : Bytes) : skipExponent s = skipSomeDigits (unsign s) := rfl

theorem skipExponent_ok_iff :
    skipExponent s = .ok s' ↔ digitNext (unsign s) = true ∧ skipDigits (unsign s) = s' := by
  rw [skipExponent_eq_skipSomeDigits]
  cases unsign s with
  | nil =>
    constructor
    · intro h
      cases h
    · rintro ⟨h, -⟩
      cases h
  | cons b s =>
    rw [skipSomeDigits, digitNext_cons]
    by_cases hb : Ascii.isDigit b = true
    · rw [if_pos hb, Except.ok.injEq, skipDigits, skipDigits, List.dropWhile_cons_of_pos hb]
      exact (and_iff_right hb).symm
    · rw [if_neg hb]
      constructor
      · intro h
        cases h
      · exact fun h => absurd h.1 hb

/-- What stands behind the letter of an exponent is passed over. -/
theorem skipExponent_eq (hsign : Sign s t) (h : SomeDigits t s') (hs' : digitNext s' = false) :
    skipExponent s = .ok s' := by
  obtain ⟨hnext, hskip⟩ := h.skipDigits_eq hs'
  rw [skipExponent_ok_iff, unsign_eq hsign hnext]
  exact ⟨hnext, hskip⟩

theorem exists_sign_of_skipExponent (h : skipExponent s = .ok s') : ∃ t, Sign s t ∧ SomeDigits t s' := by
  obtain ⟨hnext, rfl⟩ := skipExponent_ok_iff.1 h
  exact ⟨_, sign_unsign s, someDigits_skipDigits hnext⟩

/-- Passes over an exponent if there is one. -/
def skipRest (s : Bytes) : Except Fault Bytes := if exponentNext s then skipExponent s.tail else .ok s

theorem skipRest_eq (h : Exponent s s') (hends : Ends s') : skipRest s = .ok s' := by
  cases h with
  | none => rw [skipRest, hends.exponentNext]; rfl
  | digits hb hsign h =>
    rw [skipRest, exponentNext_iff.2 ⟨_, _, rfl, hb⟩]
    exact skipExponent_eq hsign h hends.digitNext

theorem exponent_of_skipRest (h : skipRest s = .ok s') : Exponent s s' := by
  unfold skipRest at h
  split at h
  · rename_i hnext
    obtain ⟨b, t, rfl, hb⟩ := exponentNext_iff.1 hnext
    obtain ⟨u, hsign, hdigits⟩ := exists_sign_of_skipExponent h
    exact .digits hb hsign hdigits
  · obtain rfl := Except.ok.inj h
    exact .none _

/-- An exponent begins with no digit and no point. -/
theorem Exponent.peek (h : Exponent s s') (hends : Ends s') :
    digitNext s = false ∧ Json.peek s ≠ some Ascii.dot := by
  cases h with
  | none =>
    refine ⟨hends.digitNext, fun hdot => ?_⟩
    exact (hends _ hdot).2.1 rfl
  | digits hb =>
    rcases hb with rfl | rfl
    · exact ⟨by rw [digitNext_cons]; decide, fun hdot => absurd (Option.some.inj hdot) (by decide)⟩
    · exact ⟨by rw [digitNext_cons]; decide, fun hdot => absurd (Option.some.inj hdot) (by decide)⟩

/-! ## Fractions -/

theorem skipFraction_eq_skipRest (s : Bytes) : skipFraction s =
    if digitNext s then skipRest (skipDigits s) else .error (.onNext .invalidNumber s) := by
  unfold skipFraction skipRest
  cases digitNext s <;> rfl

theorem skipNumber_cons (b : UInt8) (s : Bytes) : skipNumber (b :: s) =
    if ¬ Ascii.isDigit b then .error (.before .invalidNumber s)
    else if Ascii.digitValue b = 0 ∧ digitNext s then .error (.onNext .invalidNumber s)
    else
      let s := if Ascii.digitValue b = 0 then s else skipDigits s
      if peek s == some Ascii.dot then skipFraction s.tail else skipRest s := rfl

theorem digitValue_eq_zero_iff (hb : Ascii.isDigit b = true) : Ascii.digitValue b = 0 ↔ b = Ascii.byte '0' := by
  have hzero : (Ascii.byte '0').toNat = 0x30 := rfl
  have hlow : 0x30 ≤ b.toNat := by
    simp only [Ascii.isDigit, Bool.and_eq_true, decide_eq_true_eq] at hb
    exact UInt8.le_iff_toNat_le.1 hb.1
  rw [Ascii.digitValue, ← UInt8.toNat_inj, hzero]
  omega

/-- What follows the digits of a whole number is passed over. -/
theorem skipTail_eq (hfraction : Fraction s t) (hexponent : Exponent t s') (hends : Ends s') :
    digitNext s = false ∧ (if peek s == some Ascii.dot then skipFraction s.tail else skipRest s) = .ok s' := by
  obtain ⟨hdigit, hdot⟩ := hexponent.peek hends
  cases hfraction with
  | none =>
    refine ⟨hdigit, ?_⟩
    rw [if_neg (by simpa using hdot)]
    exact skipRest_eq hexponent hends
  | @digits s _ h =>
    obtain ⟨hnext, hskip⟩ := h.skipDigits_eq hdigit
    refine ⟨by rw [digitNext_cons]; decide, ?_⟩
    rw [show (peek (Ascii.dot :: s) == some Ascii.dot) = true from rfl, if_pos rfl, List.tail_cons,
      skipFraction_eq_skipRest, if_pos hnext, hskip]
    exact skipRest_eq hexponent hends

theorem exists_fraction_of_skipTail
    (h : (if peek s == some Ascii.dot then skipFraction s.tail else skipRest s) = .ok s') :
    ∃ t, Fraction s t ∧ Exponent t s' := by
  split at h
  · rename_i hdot
    cases s with
    | nil => exact absurd hdot (by decide)
    | cons b s =>
      obtain rfl : b = Ascii.dot := by simpa [peek] using hdot
      rw [List.tail_cons, skipFraction_eq_skipRest] at h
      split at h
      · rename_i hnext
        exact ⟨_, .digits (someDigits_skipDigits hnext), exponent_of_skipRest h⟩
      · cases h
  · exact ⟨_, .none _, exponent_of_skipRest h⟩

/-! ## Numbers -/

theorem Digits.length_le (h : Digits s s') : s'.length ≤ s.length := by
  induction h with
  | none s => exact le_rfl
  | cons hb h ih => exact Nat.le_succ_of_le ih

theorem SomeDigits.length_lt (h : SomeDigits s s') : s'.length < s.length := by
  obtain ⟨-, h⟩ := h
  exact Nat.lt_succ_of_le h.length_le

theorem Sign.length_le (h : Sign s s') : s'.length ≤ s.length := by
  cases h with
  | none => exact le_rfl
  | plus | minus => exact Nat.le_succ _

theorem Whole.length_lt (h : Whole s s') : s'.length < s.length := by
  cases h with
  | zero => exact Nat.lt_succ_self _
  | digits hb hzero h => exact Nat.lt_succ_of_le h.length_le

theorem Fraction.length_le (h : Fraction s s') : s'.length ≤ s.length := by
  cases h with
  | none => exact le_rfl
  | digits h => exact Nat.le_succ_of_le h.length_lt.le

theorem Exponent.length_le (h : Exponent s s') : s'.length ≤ s.length := by
  cases h with
  | none => exact le_rfl
  | digits hb hsign h => exact Nat.le_succ_of_le (h.length_lt.le.trans hsign.length_le)

theorem Unsigned.length_lt (h : Unsigned s s') : s'.length < s.length := by
  obtain ⟨hwhole, hfraction, hexponent⟩ := h
  exact (hexponent.length_le.trans hfraction.length_le).trans_lt hwhole.length_lt

theorem Numeral.length_lt (h : Numeral s s') : s'.length < s.length := by
  cases h with
  | positive h => exact h.length_lt
  | negative h => exact Nat.lt_succ_of_lt h.length_lt

/-- **A number is passed over as a whole**, if what follows it belongs to no number. -/
theorem skipNumber_eq (h : Unsigned s s') (hends : Ends s') : skipNumber s = .ok s' := by
  obtain ⟨hwhole, hfraction, hexponent⟩ := h
  obtain ⟨hnext, htail⟩ := skipTail_eq hfraction hexponent hends
  cases hwhole with
  | zero =>
    have hb : Ascii.isDigit (Ascii.byte '0') = true := by decide
    have hzero := (digitValue_eq_zero_iff hb).2 rfl
    rw [skipNumber_cons, if_neg (not_not.2 hb), hnext, if_neg fun h => absurd h.2 (by decide)]
    simp only [hzero, if_true]
    exact htail
  | digits hb hzero h =>
    have hvalue := mt (digitValue_eq_zero_iff hb).1 hzero
    rw [skipNumber_cons, if_neg (not_not.2 hb), if_neg fun h => hvalue h.1]
    simp only [hvalue, if_false, skipDigits_eq h hnext]
    exact htail

/-- **What is passed over is a number.** -/
theorem unsigned_of_skipNumber (h : skipNumber s = .ok s') : Unsigned s s' := by
  cases s with
  | nil => cases h
  | cons b s =>
    rw [skipNumber_cons] at h
    split at h
    · cases h
    rename_i hb
    rw [not_not] at hb
    split at h
    · cases h
    obtain ⟨t, hfraction, hexponent⟩ := exists_fraction_of_skipTail h
    refine .mk ?_ hfraction hexponent
    by_cases hzero : Ascii.digitValue b = 0
    · rw [if_pos hzero, (digitValue_eq_zero_iff hb).1 hzero]
      exact .zero s
    · rw [if_neg hzero]
      exact .digits hb (mt (digitValue_eq_zero_iff hb).2 hzero) (digits_skipDigits s)

end RunnerDispatch.Json

import Mathlib
import RunnerDispatch.Text.Casing

/-!
# Lower case is lower case already

Whether a sigma is final depends on its surroundings, so a text cannot be lowercased character by
character. But what is written is never changed again, in whatever surroundings it stands.

* `capitals`: all characters that lowercasing changes, as shifts.
* `Shift.Avoids`: no capital of one shift is sent to a capital of another, **which a glance at the ends of
  the two ranges tells**.
* `Settled`: a character that lowercasing leaves alone everywhere.
* `lower_lower`: **lowercasing twice is lowercasing once.**
-/

namespace RunnerDispatch.Text.Casing

/-! ## The shifts -/

/-- The shifts together with the characters that are treated on their own: the capitals of ASCII, `İ` and
the sigma. -/
def capitals : List Shift :=
  ⟨0x41, 0x5A, 1, 32, 0⟩ :: ⟨0x130, 0x130, 1, 0, 0⟩ :: ⟨0x3A3, 0x3A3, 1, 32, 0⟩ :: shifts

/-- The code points that a shift leads to are no capitals of the other shift: the two ranges do not meet,
or both take every other code point and miss each other. -/
def Shift.Avoids (s t : Shift) : Prop :=
  s.last + s.up < t.first + s.down ∨ t.last + s.down < s.first + s.up ∨
    (s.step = 2 ∨ s.first = s.last) ∧ t.step = 2 ∧ (s.first + s.up + s.down + t.first) % 2 = 1

instance (s t : Shift) : Decidable (s.Avoids t) := inferInstanceAs (Decidable (_ ∨ _ ∨ _))

/-- The code points that a shift leads to are characters. -/
def Shift.StaysInRange (s : Shift) : Prop :=
  s.down ≤ s.first ∧ (s.last + s.up < 0xD800 + s.down ∨
    0xDFFF + s.down < s.first + s.up ∧ s.last + s.up < 0x110000 + s.down)

instance (s : Shift) : Decidable s.StaysInRange := inferInstanceAs (Decidable (_ ∧ _))

variable {s t : Shift} {n : ℕ}

theorem Shift.covers_iff : s.covers n = true ↔ s.first ≤ n ∧ n ≤ s.last ∧ (n - s.first) % s.step = 0 := by
  simp only [covers, Bool.and_eq_true, decide_eq_true_eq, beq_iff_eq, and_assoc]

theorem Shift.covers_outside (h : n < s.first ∨ s.last < n) : s.covers n = false := by
  rw [Bool.eq_false_iff, ne_eq, Shift.covers_iff]
  omega

/-- **A shift leads to no capital of a shift that it avoids.** -/
theorem Shift.Avoids.not_covers (h : s.Avoids t) (hdown : s.down ≤ s.first) (hn : s.covers n = true) :
    t.covers (n + s.up - s.down) = false := by
  obtain ⟨hfirst, hlast, hstep⟩ := Shift.covers_iff.1 hn
  rw [Bool.eq_false_iff, ne_eq, Shift.covers_iff]
  rintro ⟨hfirst', hlast', hstep'⟩
  rcases h with h | h | ⟨hs, ht, hodd⟩
  · omega
  · omega
  · rw [ht] at hstep'
    rcases hs with hs | hs
    · rw [hs] at hstep
      omega
    · omega

/-- Every shift avoids every capital. -/
theorem shifts_avoid : ∀ s ∈ shifts, s.StaysInRange ∧ ∀ t ∈ capitals, s.Avoids t := by decide +kernel

/-- **No code point is sent to a capital**, and each is sent to a character. -/
theorem shifted_settled (hn : n.isValidChar) (hhigh : 0x80 ≤ n) (hdotted : n ≠ 0x130) (hsigma : n ≠ 0x3A3) :
    (shifted n).isValidChar ∧ ∀ t ∈ capitals, t.covers (shifted n) = false := by
  unfold shifted
  split
  · rename_i s hs
    have hcovers : s.covers n = true := by simpa using List.find?_some hs
    obtain ⟨⟨hdown, hrange⟩, havoid⟩ := shifts_avoid s (List.mem_of_find?_eq_some hs)
    obtain ⟨hfirst, hlast, -⟩ := Shift.covers_iff.1 hcovers
    refine ⟨?_, fun t ht => (havoid t ht).not_covers hdown hcovers⟩
    unfold Nat.isValidChar
    omega
  · rename_i hnone
    rw [List.find?_eq_none] at hnone
    refine ⟨hn, fun t ht => ?_⟩
    simp only [capitals, List.mem_cons] at ht
    rcases ht with rfl | rfl | rfl | ht
    · exact Shift.covers_outside (.inr (Nat.lt_of_lt_of_le (by decide) hhigh))
    · exact Shift.covers_outside (Nat.lt_or_gt_of_ne hdotted)
    · exact Shift.covers_outside (Nat.lt_or_gt_of_ne hsigma)
    · exact Bool.eq_false_iff.2 (hnone t ht)

/-! ## Characters that stay as they are -/

/-- A character that lowercasing leaves alone, whatever surrounds it. -/
def Settled (c : Char) : Prop := c ≠ 'Σ' ∧ lowerChar c = [c]

instance (c : Char) : Decidable (Settled c) := inferInstanceAs (Decidable (_ ∧ _))

/-- A character that is no capital is settled. -/
theorem settled_of_not_covers {c : Char} (h : ∀ t ∈ capitals, t.covers c.toNat = false) : Settled c := by
  have hne {d : Char} (hd : ∃ t ∈ capitals, t.covers d.toNat = true) : c ≠ d := by
    rintro rfl
    obtain ⟨t, ht, hcovers⟩ := hd
    rw [h t ht] at hcovers
    exact absurd hcovers (by decide)
  refine ⟨hne ⟨⟨0x3A3, 0x3A3, 1, 32, 0⟩, by simp [capitals], by decide⟩, ?_⟩
  unfold lowerChar
  split
  · -- the capitals of ASCII are the first of the shifts
    have hascii := h ⟨0x41, 0x5A, 1, 32, 0⟩ List.mem_cons_self
    rw [Bool.eq_false_iff, ne_eq, Shift.covers_iff] at hascii
    rw [Char.toLower, dif_neg]
    rintro ⟨hA, hZ⟩
    exact hascii ⟨hA, hZ, Nat.mod_one _⟩
  rw [if_neg (hne ⟨⟨0x130, 0x130, 1, 0, 0⟩, by simp [capitals], by decide⟩)]
  have hnone : shifts.find? (·.covers c.toNat) = none := by
    rw [List.find?_eq_none]
    intro t ht
    rw [h t (by simp [capitals, ht])]
    decide
  rw [shifted, hnone, Char.ofNat_toNat]

theorem settled_toLower {c : Char} (h : c.toNat < 0x80) : Settled c.toLower := by
  have hall : ∀ n < 0x80, Settled (Char.ofNat n).toLower := by decide +kernel
  have hc := hall c.toNat h
  rwa [Char.ofNat_toNat] at hc

/-- **What is written for a character is settled.** -/
theorem settled_of_mem_lowerAt {before after : List Char} {c d : Char} (h : d ∈ lowerAt before c after) :
    Settled d := by
  unfold lowerAt at h
  split at h
  · rw [List.mem_singleton] at h
    split at h
    · rw [h]
      decide +kernel
    · rw [h]
      decide +kernel
  rename_i hsigma
  unfold lowerChar at h
  split at h
  · rename_i hascii
    rw [List.mem_singleton] at h
    rw [h]
    exact settled_toLower hascii
  rename_i hascii
  split at h
  · simp only [List.mem_cons, List.not_mem_nil, or_false] at h
    rcases h with rfl | rfl
    · decide +kernel
    · decide +kernel
  rename_i hdotted
  rw [List.mem_singleton] at h
  -- the rest is shifted, and no shift leads to a capital
  have hne {d : Char} (hd : c ≠ d) : c.toNat ≠ d.toNat := fun he => hd (Char.toNat_inj.1 he)
  have hvalid : c.toNat.isValidChar := c.valid
  obtain ⟨hvalid, hclear⟩ := shifted_settled hvalid (Nat.le_of_not_lt hascii) (hne hdotted) (hne hsigma)
  rw [h]
  refine settled_of_not_covers fun t ht => ?_
  rw [Char.toNat_ofNat, if_pos hvalid]
  exact hclear t ht

/-! ## Texts -/

theorem settled_of_mem_lowerOnto {before left : List Char} :
    ∀ c ∈ lowerOnto [] before left, Settled c := by
  induction left generalizing before with
  | nil => exact fun c hc => absurd hc List.not_mem_nil
  | cons d left ih =>
    intro c hc
    rw [lowerOnto, lowerOnto_eq, List.append_nil, List.reverse_reverse, List.mem_append] at hc
    rcases hc with hc | hc
    · exact settled_of_mem_lowerAt hc
    · exact ih c hc

/-- Settled characters are written as they are. -/
theorem lowerOnto_settled {before left : List Char} (h : ∀ c ∈ left, Settled c) :
    lowerOnto [] before left = left := by
  induction left generalizing before with
  | nil => rfl
  | cons c left ih =>
    obtain ⟨hsigma, hlower⟩ := h c List.mem_cons_self
    rw [lowerOnto, lowerOnto_eq, ih fun d hd => h d (List.mem_cons_of_mem _ hd), lowerAt, if_neg hsigma, hlower]
    rfl

/-- **Lowercasing twice is lowercasing once.** -/
theorem lower_lower (s : String) : lower (lower s) = lower s := by
  rw [lower, lower, String.toList_ofList, lowerOnto_settled settled_of_mem_lowerOnto]

end RunnerDispatch.Text.Casing

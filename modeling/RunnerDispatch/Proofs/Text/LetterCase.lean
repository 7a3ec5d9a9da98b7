import RunnerDispatch.Text.Casing

/-!
# The letter case of the surroundings

A sigma is lowercased by what surrounds it: which characters have a case, and which are passed over. The letters
of ASCII have a case whether they are capital or small, and none of them is passed over, so their own case decides
nothing.

* `SameButCase`: two texts that differ in the case of ASCII letters only.
* `metCased_map_toLower`: the surroundings of a sigma tell the same in either case.
* `lower_congr`: **texts that differ in the case of ASCII letters only have the same lower case.**
-/

namespace RunnerDispatch.Text

/-- Two texts that differ in the case of ASCII letters only; `Char.toLower` leaves every other character alone. -/
def SameButCase (s t : String) : Prop := s.toList.map Char.toLower = t.toList.map Char.toLower

instance (s t : String) : Decidable (SameButCase s t) := inferInstanceAs (Decidable (_ = _))

namespace Casing

/-- A character is treated like its small form, its surroundings aside. -/
def TreatedAsSmall (c : Char) : Prop :=
  isCased c.toLower = isCased c ∧ isIgnorable c.toLower = isIgnorable c ∧
    lowerChar c.toLower = lowerChar c ∧ (c.toLower = 'Σ' ↔ c = 'Σ')

instance (c : Char) : Decidable (TreatedAsSmall c) := inferInstanceAs (Decidable (_ ∧ _))

/-- The capitals of ASCII, checked one by one. -/
theorem treatedAsSmall_capital : ∀ n < 26, TreatedAsSmall (Char.ofNat (0x41 + n)) := by decide +kernel

/-- **A letter of ASCII is treated alike in both cases**, and no other character has a second case here. -/
theorem treatedAsSmall (c : Char) : TreatedAsSmall c := by
  by_cases hc : 'A' ≤ c ∧ c ≤ 'Z'
  · obtain ⟨n, hn⟩ : ∃ n, c.toNat = 0x41 + n := Nat.exists_eq_add_of_le hc.1
    have hlast : c.toNat ≤ 0x5A := hc.2
    have hcapital := treatedAsSmall_capital n (by omega)
    rwa [← hn, Char.ofNat_toNat] at hcapital
  · have hsame : c.toLower = c := dif_neg hc
    rw [TreatedAsSmall, hsame]
    exact ⟨rfl, rfl, rfl, Iff.rfl⟩

theorem metCased_cons (c : Char) (cs : List Char) :
    metCased (c :: cs) = if isIgnorable c then metCased cs else isCased c := by
  unfold metCased
  rw [List.dropWhile_cons]
  by_cases hc : isIgnorable c = true
  · rw [if_pos hc, if_pos hc]
  · rw [if_neg hc, if_neg hc]

/-- **What surrounds a sigma tells the same in either case.** -/
theorem metCased_map_toLower (cs : List Char) : metCased (cs.map Char.toLower) = metCased cs := by
  induction cs with
  | nil => rfl
  | cons c cs ih =>
    obtain ⟨hcased, hignorable, -, -⟩ := treatedAsSmall c
    rw [List.map_cons, metCased_cons, metCased_cons, ih, hcased, hignorable]

theorem lowerAt_map_toLower (before : List Char) (c : Char) (after : List Char) :
    lowerAt (before.map Char.toLower) c.toLower (after.map Char.toLower) = lowerAt before c after := by
  obtain ⟨-, -, hlower, hsigma⟩ := treatedAsSmall c
  unfold lowerAt endsWord
  rw [metCased_map_toLower, metCased_map_toLower, hlower]
  by_cases hc : c = 'Σ'
  · rw [if_pos hc, if_pos (hsigma.2 hc)]
  · rw [if_neg hc, if_neg fun h => hc (hsigma.1 h)]

theorem lowerOnto_map_toLower (done before left : List Char) :
    lowerOnto done (before.map Char.toLower) (left.map Char.toLower) = lowerOnto done before left := by
  -- what is done moves to the front of `before`, in the case it was written in
  induction left generalizing done before with
  | nil => rfl
  | cons c left ih =>
    rw [List.map_cons, lowerOnto, lowerOnto, lowerAt_map_toLower, ← List.map_cons, ih]

/-- **Texts that differ in the case of ASCII letters only have the same lower case.** -/
theorem lower_congr {s t : String} (h : SameButCase s t) : lower s = lower t := by
  have hsmall (u : String) : lower u = String.ofList (lowerOnto [] [] (u.toList.map Char.toLower)) :=
    congrArg String.ofList (lowerOnto_map_toLower [] [] u.toList).symm
  rw [hsmall s, hsmall t, h]

end Casing

end RunnerDispatch.Text

import Mathlib
import RunnerDispatch.Text.Hex

/-!
# Hexadecimal digits in either case

* `Hex.value?_eq_some_iff`: a character has a value if it is a digit but for its case.
* `Hex.toBytes?_eq_some_iff`: **digits stand for bytes if they are, but for their case, the digits that the
  bytes are written in**, and for no other bytes.
* `Hex.isSome_toBytes?_iff`: characters stand for some bytes if they are digits, two for each byte.
-/

namespace RunnerDispatch.Text.Hex

/-- A decimal digit, or one of the first six letters in either case. -/
def IsDigit (c : Char) : Prop := ('0' ≤ c ∧ c ≤ '9') ∨ ('a' ≤ c ∧ c ≤ 'f') ∨ ('A' ≤ c ∧ c ≤ 'F')

instance (c : Char) : Decidable (IsDigit c) := inferInstanceAs (Decidable (_ ∨ _ ∨ _))

theorem digit_inj : ∀ m < 16, ∀ n < 16, digit m = digit n → m = n := by decide

theorem digit_ascii : ∀ n < 16, (digit n).toNat < 0x80 := by decide

theorem toLower_digit : ∀ n < 16, (digit n).toLower = digit n := by decide

/-- The values of the ASCII characters, checked one by one. -/
theorem value?_ascii : ∀ m < 0x80,
    (∀ n ∈ value? (Char.ofNat m), n < 16 ∧ (Char.ofNat m).toLower = digit n) ∧
      (value? (Char.ofNat m) = none → ∀ n < 16, (Char.ofNat m).toLower ≠ digit n) := by
  decide

theorem value?_high {c : Char} (hc : 0x80 ≤ c.toNat) : value? c = none := by
  have not_le {d : Char} (hd : d.toNat < 0x80) : ¬ c ≤ d := fun h =>
    Nat.not_lt_of_le hc (Nat.lt_of_le_of_lt h hd)
  rw [value?, if_neg fun h => not_le (by decide) h.2, if_neg fun h => not_le (by decide) h.2,
    if_neg fun h => not_le (by decide) h.2]

theorem toLower_high {c : Char} (hc : 0x80 ≤ c.toNat) : c.toLower = c := by
  rw [Char.toLower, dif_neg]
  exact fun h => Nat.not_lt_of_le hc (Nat.lt_of_le_of_lt h.2 (by decide))

/-- **A character has a value if it is a digit but for its case.** -/
theorem value?_eq_some_iff {c : Char} {n : Nat} :
    value? c = some n ↔ n < 16 ∧ c.toLower = digit n := by
  by_cases hc : c.toNat < 0x80
  · obtain ⟨hsome, hnone⟩ := value?_ascii c.toNat hc
    rw [Char.ofNat_toNat] at hsome hnone
    refine ⟨fun h => hsome n h, fun ⟨hn, hdigit⟩ => ?_⟩
    cases hv : value? c with
    | none => exact absurd hdigit (hnone hv n hn)
    | some m =>
      obtain ⟨hm, hdigit'⟩ := hsome m hv
      rw [digit_inj m hm n hn (hdigit'.symm.trans hdigit)]
  · have hhigh := Nat.le_of_not_lt hc
    rw [value?_high hhigh, toLower_high hhigh]
    refine ⟨(nomatch ·), fun ⟨hn, hdigit⟩ => ?_⟩
    rw [hdigit] at hc
    exact absurd (digit_ascii n hn) hc

/-- Digits have a value, and nothing else has. -/
theorem isSome_value?_iff {c : Char} : (value? c).isSome = true ↔ IsDigit c := by
  unfold value? IsDigit
  split
  · rename_i hdecimal
    exact ⟨fun _ => .inl hdecimal, fun _ => rfl⟩
  rename_i hdecimal
  split
  · rename_i hlower
    exact ⟨fun _ => .inr (.inl hlower), fun _ => rfl⟩
  rename_i hlower
  split
  · rename_i hcapital
    exact ⟨fun _ => .inr (.inr hcapital), fun _ => rfl⟩
  · rename_i hcapital
    refine ⟨(nomatch ·), fun h => ?_⟩
    rcases h with h | h | h
    · exact absurd h hdecimal
    · exact absurd h hlower
    · exact absurd h hcapital

theorem ofBytes_cons (b : UInt8) (bytes : List UInt8) :
    ofBytes (b :: bytes) = digit (b.toNat / 16) :: digit (b.toNat % 16) :: ofBytes bytes := rfl

theorem mem_ofBytes {c : Char} {bytes : List UInt8} (h : c ∈ ofBytes bytes) : ∃ n < 16, c = digit n := by
  obtain ⟨b, -, hc⟩ := List.mem_flatMap.1 h
  have hb : b.toNat < 256 := b.toNat_lt
  rcases List.mem_cons.1 hc with rfl | hc
  · exact ⟨b.toNat / 16, by omega, rfl⟩
  · exact ⟨b.toNat % 16, by omega, List.mem_singleton.1 hc⟩

theorem map_toLower_ofBytes (bytes : List UInt8) : (ofBytes bytes).map Char.toLower = ofBytes bytes := by
  refine (List.map_congr_left fun c hc => ?_).trans (List.map_id _)
  obtain ⟨n, hn, rfl⟩ := mem_ofBytes hc
  exact toLower_digit n hn

/-- **Digits stand for the bytes that are written in them**, but for their case. -/
theorem toBytes?_eq_some_iff {cs : List Char} {bytes : List UInt8} :
    toBytes? cs = some bytes ↔ cs.map Char.toLower = ofBytes bytes := by
  induction cs using toBytes?.induct generalizing bytes with
  | case1 =>
    cases bytes with
    | nil => simp [toBytes?, ofBytes]
    | cons b bytes => simp [toBytes?, ofBytes, pair]
  | case2 c =>
    cases bytes with
    | nil => simp [toBytes?, ofBytes]
    | cons b bytes => simp [toBytes?, ofBytes, pair]
  | case3 c d rest ih =>
    -- two digits are a byte's quotient and remainder by 16
    rw [toBytes?, List.map_cons, List.map_cons]
    constructor
    · intro h
      obtain ⟨high, hc, h⟩ := Option.bind_eq_some_iff.1 h
      obtain ⟨low, hd, h⟩ := Option.bind_eq_some_iff.1 h
      obtain ⟨bytes', hrest, h⟩ := Option.bind_eq_some_iff.1 h
      obtain rfl := Option.some.inj h
      obtain ⟨hhigh, hcdigit⟩ := value?_eq_some_iff.1 hc
      obtain ⟨hlow, hddigit⟩ := value?_eq_some_iff.1 hd
      have hbyte : (UInt8.ofNat (16 * high + low)).toNat = 16 * high + low := by
        rw [UInt8.toNat_ofNat']
        omega
      rw [ofBytes_cons, hbyte, hcdigit, hddigit, ih.1 hrest, show (16 * high + low) / 16 = high by omega,
        show (16 * high + low) % 16 = low by omega]
    · intro h
      cases bytes with
      | nil => exact (nomatch h)
      | cons b bytes =>
        rw [ofBytes_cons, List.cons.injEq, List.cons.injEq] at h
        obtain ⟨hc, hd, hrest⟩ := h
        have hb : b.toNat < 256 := b.toNat_lt
        rw [value?_eq_some_iff.2 ⟨by omega, hc⟩, value?_eq_some_iff.2 ⟨by omega, hd⟩, ih.2 hrest]
        have hsum : 16 * (b.toNat / 16) + b.toNat % 16 = b.toNat := by omega
        simp only [Option.bind_eq_bind, Option.bind_some, Option.pure_def, hsum, UInt8.ofNat_toNat]

/-- **Characters stand for some bytes if they are digits, two for each byte.** -/
theorem isSome_toBytes?_iff {cs : List Char} :
    (toBytes? cs).isSome = true ↔ Even cs.length ∧ ∀ c ∈ cs, IsDigit c := by
  induction cs using toBytes?.induct with
  | case1 => simp [toBytes?]
  | case2 c => simp [toBytes?]
  | case3 c d rest ih =>
    have hlength : Even (c :: d :: rest).length ↔ Even rest.length := by
      rw [List.length_cons, List.length_cons, Nat.even_add_one, Nat.even_add_one, not_not]
    have hsome : (toBytes? (c :: d :: rest)).isSome = true ↔
        (value? c).isSome = true ∧ (value? d).isSome = true ∧ (toBytes? rest).isSome = true := by
      rw [toBytes?]
      cases value? c <;> cases value? d <;> cases toBytes? rest <;> simp
    rw [hsome, hlength, ih, isSome_value?_iff, isSome_value?_iff, List.forall_mem_cons, List.forall_mem_cons]
    tauto

end RunnerDispatch.Text.Hex

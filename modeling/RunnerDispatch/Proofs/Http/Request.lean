import RunnerDispatch.Http.Request
import RunnerDispatch.Proofs.Bytes

/-!
# What a header says

A header arrives as bytes, and is a text only if each of them is printable ASCII or a tab.

* `Request.header?_eq_some_iff`, `Request.header?_eq_lookup`: the first header of a name.
* `Request.textOf?_ofList`: **a legible text is read back from the bytes of a header**.
* `Request.declaredLength?_toString`: a length that is written in decimal is the length that is declared.
-/

namespace RunnerDispatch

namespace Text

theorem toLower_eq_self {s : String} (h : s.toList.map Char.toLower = s.toList) : s.toLower = s := by
  rw [← String.toList_inj, String.toLower, String.toList_map, h]

/-- **A number is read back from its decimal digits.** -/
theorem natural?_toString (n : Nat) : natural? (toString n) = some n := by
  have hdigits : (toString n).toList = Nat.toDigits 10 n := by
    rw [Nat.toString_eq_ofList_toDigits, String.toList_ofList]
  have hall : (Nat.toDigits 10 n).all Char.isDigit = true :=
    List.all_eq_true.2 fun c hc => Nat.isDigit_of_mem_toDigits (by decide) (by decide) hc
  have hvalue : (Nat.toDigits 10 n).foldl (fun n c => 10 * n + (c.toNat - 0x30)) 0 = n :=
    Nat.ofDigitChars_ten_toDigits
  rw [natural?, hdigits]
  have hne : Nat.toDigits 10 n ≠ [] := Nat.toDigits_ne_nil
  revert hall hvalue hne
  generalize Nat.toDigits 10 n = cs
  intro hall hvalue hne
  split
  · exact absurd (List.all_eq_true.1 hall '+' List.mem_cons_self) (by decide)
  · rw [if_neg, hvalue]
    simp [hall, hne]

end Text

namespace Http.Request

theorem header?_eq_some_iff {r : Request} {name : String} {value : Bytes} :
    r.header? name = some value ↔ ∃ before n after, r.headers = before ++ (n, value) :: after ∧
      (∀ h ∈ before, h.1.toLower ≠ name.toLower) ∧ n.toLower = name.toLower := by
  rw [header?, Option.map_eq_some_iff]
  constructor
  · rintro ⟨⟨n, v⟩, hfind, rfl⟩
    obtain ⟨hn, before, after, hheaders, hbefore⟩ := List.find?_eq_some_iff_append.1 hfind
    refine ⟨before, n, after, hheaders, fun h hh => ?_, beq_iff_eq.1 hn⟩
    simpa using hbefore h hh
  · rintro ⟨before, n, after, hheaders, hbefore, hn⟩
    refine ⟨(n, value), List.find?_eq_some_iff_append.2 ⟨beq_iff_eq.2 hn, before, after, hheaders, ?_⟩, rfl⟩
    intro h hh
    simpa using hbefore h hh

/-- **Among headers with names in lower case the first of a name is the one that is looked up.** -/
theorem header?_eq_lookup {r : Request} {name : String} (hname : name.toLower = name)
    (hlower : ∀ h ∈ r.headers, h.1.toLower = h.1) : r.header? name = r.headers.lookup name := by
  rw [header?, hname]
  revert hlower
  induction r.headers with
  | nil => intro _; rfl
  | cons h headers ih =>
    intro hlower
    rw [List.find?_cons, List.lookup_cons, hlower h List.mem_cons_self, Bool.beq_comm (a := h.1)]
    split
    · rfl
    · exact ih fun h hh => hlower h (List.mem_cons_of_mem _ hh)

/-- A character that may stand in a header. -/
def IsLegible (c : Char) : Prop := c.toNat < 0x80 ∧ isPrintable c.toUInt8 = true

/-- Characters of a kind are legible if each ASCII character of that kind is. -/
theorem isLegible_of_ascii {p : Char → Bool}
    (hall : ∀ n < 0x80, p (Char.ofNat n) = true → isPrintable (Char.ofNat n).toUInt8 = true) {c : Char}
    (hascii : c.toNat < 0x80) (hp : p c = true) : IsLegible c := by
  have hprintable := hall c.toNat hascii
  rw [Char.ofNat_toNat] at hprintable
  exact ⟨hascii, hprintable hp⟩

theorem isLegible_isDigit {c : Char} (h : c.isDigit = true) : IsLegible c := by
  have hascii : c.toNat < 0x80 := by
    rw [Char.isDigit, Bool.and_eq_true, decide_eq_true_iff, decide_eq_true_iff] at h
    exact Nat.lt_of_le_of_lt h.2 (by decide)
  exact isLegible_of_ascii (by decide) hascii h

theorem all_isPrintable_ofList {cs : List Char} (h : ∀ c ∈ cs, IsLegible c) :
    (Bytes.ofString (String.ofList cs)).all isPrintable = true := by
  rw [List.all_eq_true, Bytes.ofString_ofList]
  intro b hb
  obtain ⟨c, hc, hb⟩ := List.mem_flatMap.1 hb
  obtain ⟨hascii, hprintable⟩ := h c hc
  rw [Bytes.ofChar_ascii hascii, List.mem_singleton] at hb
  rw [hb]
  exact hprintable

/-- **A legible text is read back from the bytes of a header.** -/
theorem textOf?_ofList {cs : List Char} (h : ∀ c ∈ cs, IsLegible c) :
    textOf? (Bytes.ofString (String.ofList cs)) = some (String.ofList cs) := by
  rw [textOf?, if_pos (all_isPrintable_ofList h), Bytes.toString?_ofString]

/-- **A length that is written in decimal is declared**, if a machine word holds it. -/
theorem declaredLength?_toString {r : Request} {n : Nat}
    (h : r.header? "content-length" = some (Bytes.ofString (toString n))) :
    r.declaredLength? = (some n).filter (· < lengthLimit) := by
  have htext : textOf? (Bytes.ofString (toString n)) = some (toString n) := by
    rw [Nat.toString_eq_ofList_toDigits]
    exact textOf?_ofList fun c hc => isLegible_isDigit (Nat.isDigit_of_mem_toDigits (by decide) (by decide) hc)
  rw [declaredLength?, readable?, h, Option.bind_some, htext, Option.bind_some, Text.natural?_toString]

end Http.Request

end RunnerDispatch
